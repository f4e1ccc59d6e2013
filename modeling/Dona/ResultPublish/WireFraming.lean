import Dona.ResultPublish.WireRequests

/-!
# The framing of requests

The boundary follows every sequence of requests to its end, and tells a header that has begun
behind a complete request from everything else.
-/

namespace Dona.ResultPublish

open WireState (noBody)

namespace WireRequestBoundary

variable {boundary next : WireRequestBoundary} {xs ys : Bytes}

/-! ### Parts of a request -/

/-- The bytes lead from one state to another; before their end no header is read. -/
structure Passes (boundary next : WireRequestBoundary) (bytes : Bytes) : Prop where
  whole : boundary.feedLoop bytes = .ok next
  inside : ∀ part rest, part ++ rest = bytes → rest ≠ [] →
    ∃ between, boundary.feedLoop part = .ok between ∧ between.state ≠ .header

theorem Passes.append {last : WireRequestBoundary} (h : Passes boundary next xs)
    (h' : Passes next last ys) : Passes boundary last (xs ++ ys) := by
  have hcut : ∀ part, boundary.feedLoop (xs ++ part) = next.feedLoop part := by
    intro part
    rw [feedLoop_append, h.whole]
    rfl
  refine ⟨by rw [hcut, h'.whole], fun part rest heq hrest ↦ ?_⟩
  rcases List.append_eq_append_iff.mp heq with ⟨more, rfl, rfl⟩ | ⟨more, rfl, rfl⟩
  · by_cases hmore : more = []
    · subst hmore
      have hinside := h'.inside [] ys rfl hrest
      rw [← hcut []] at hinside
      simpa only [List.append_nil] using hinside
    · exact h.inside part more rfl hmore
  · rw [hcut]
    exact h'.inside more rest rfl hrest

/-- A line is read in this state, and nothing of it has come yet. -/
structure Awaits (boundary : WireRequestBoundary) (state : WireState) : Prop where
  state_eq : boundary.state = state
  pending_eq : boundary.pending = []

theorem indexOf_line {line : Bytes} (hline : ∀ byte ∈ line, byte ≠ 13) :
    indexOf crlf (line ++ crlf) = some line.length := by
  have hbegins : BeginsLine fun bytes ↦ if crlf.isPrefixOf bytes then some () else none := by
    intro byte bytes hbyte
    simp [crlf, List.cons_prefix_cons, Ne.symm hbyte]
  have hend : search (fun bytes ↦ if crlf.isPrefixOf bytes then some () else none) crlf =
      some (0, ()) := by decide
  unfold indexOf
  rw [search_text hbegins hline, hend]
  simp

/-- A line, other than a header, with its end. -/
theorem passes_line {state : WireState} (h : boundary.Awaits state) (hstate : state.isLine = true)
    (hheader : state ≠ .header) {line : Bytes} (hline : ∀ byte ∈ line, byte ≠ 13)
    (hlength : line.length + 2 ≤ state.limit) (hend : boundary.endLine line = .ok next) :
    Passes boundary next (line ++ crlf) := by
  have hisLine : boundary.state.isLine = true := by rw [h.state_eq]; exact hstate
  have hmarker : boundary.state.marker = crlf := by
    rw [h.state_eq, WireState.marker, if_neg hheader]
  have hlimit : line.length + crlf.length ≤ boundary.state.limit := by
    rw [h.state_eq]
    exact hlength
  have hindex := indexOf_line hline
  have hpending : ∀ bytes, boundary.pending ++ bytes = bytes := by
    intro bytes
    rw [h.pending_eq, List.nil_append]
  constructor
  · have hfound : indexOf boundary.state.marker (boundary.pending ++ (line ++ crlf)) =
        some line.length := by rw [hmarker, hpending, hindex]
    rw [feedLoop_line hisLine hfound (by rw [hmarker]; exact hlimit), hpending, List.take_left,
      hend, hmarker, h.pending_eq]
    have hdrop : (line ++ crlf).drop (line.length + crlf.length - ([] : Bytes).length) = [] := by
      apply List.drop_of_length_le
      simp
    rw [hdrop]
    exact feedLoop_nil next
  · intro part rest heq hrest
    have hshort : part.length < line.length + crlf.length := by
      have hlengths := congrArg List.length heq
      have hpos := List.length_pos_iff.mpr hrest
      rw [List.length_append, List.length_append] at hlengths
      omega
    have hnone : indexOf boundary.state.marker (boundary.pending ++ part) = none := by
      rw [hmarker, hpending]
      exact indexOf_eq_none_of_start hindex ⟨rest, heq⟩ hshort
    have hroom : (boundary.pending ++ part).length ≤ boundary.state.limit := by
      rw [hpending]
      omega
    refine ⟨_, feedLoop_keep hisLine hroom hnone, ?_⟩
    change boundary.state ≠ .header
    rw [h.state_eq]
    exact hheader

/-- The bytes of a body, up to its end. -/
theorem passes_content {content : Bytes} (hbody : boundary.state.isBody = true)
    (hremaining : boundary.remaining = content.length) :
    Passes boundary (boundary.consume content.length) content := by
  have hpos := boundary.remaining_pos hbody
  have hne : content ≠ [] := List.length_pos_iff.mp (by omega)
  have hheader : boundary.state ≠ .header := by
    intro hstate
    rw [hstate] at hbody
    cases hbody
  constructor
  · rw [feedLoop_body hbody hne, hremaining, Nat.min_self, List.drop_length, feedLoop_nil]
  · rintro part rest rfl hrest
    by_cases hpart : part = []
    · subst hpart
      exact ⟨boundary, feedLoop_nil boundary, hheader⟩
    · have hlt : part.length < boundary.remaining := by
        have hpos := List.length_pos_iff.mpr hrest
        rw [hremaining, List.length_append]
        omega
      have hfeed := feedLoop_part hbody hpart hlt []
      rw [List.append_nil, feedLoop_nil] at hfeed
      refine ⟨_, hfeed, ?_⟩
      rw [(consume_of_lt hlt).1]
      exact hheader

/-- The line end behind a chunk. -/
theorem passes_crlf (hstate : boundary.state = .dataCrlf) (hindex : boundary.crlfIndex = 0) :
    ∃ next, Passes boundary next crlf ∧ next.Awaits .size := by
  have hfirst : boundary.acceptCrlf 13 = .ok
      { boundary.enter .dataCrlf boundary.remaining (noBody rfl) with
        crlfIndex := 1
        crlfIndex_eq := .inr ⟨rfl, rfl⟩ } := by
    unfold acceptCrlf
    rw [if_neg (by simp [hindex]), if_pos hindex]
  refine ⟨boundary.enter .size boundary.remaining (noBody rfl), ⟨?_, ?_⟩, ⟨rfl, rfl⟩⟩
  · rw [crlf, feedLoop_crlf hstate, hfirst]
    change WireRequestBoundary.feedLoop _ _ = _
    rw [feedLoop_crlf rfl]
    change WireRequestBoundary.feedLoop _ [] = _
    rw [feedLoop_nil]
    rfl
  · intro part rest heq hrest
    rcases part with _ | ⟨byte, part⟩
    · exact ⟨boundary, feedLoop_nil boundary, by simp [hstate]⟩
    · obtain ⟨rfl, htail⟩ := List.cons.inj heq
      have hnil : part = [] := by
        rcases part with _ | ⟨byte', part⟩
        · rfl
        · obtain ⟨-, htail⟩ := List.cons.inj htail
          exact absurd (List.append_eq_nil_iff.mp htail).2 hrest
      subst hnil
      rw [feedLoop_crlf hstate, hfirst]
      exact ⟨_, feedLoop_nil _, show WireState.dataCrlf ≠ .header by decide⟩

/-! ### Chunked bodies -/

theorem dropWhile_reverse {digits blanks : Bytes} (hblanks : ∀ byte ∈ blanks, isBlankByte byte = true)
    (hdigits : ∀ digit ∈ digits, isHexDigit digit = true) :
    (digits ++ blanks).reverse.dropWhile isSpace = digits.reverse := by
  rw [List.reverse_append]
  apply dropWhile_blanks
  · exact fun byte hbyte ↦ hblanks byte (List.mem_reverse.mp hbyte)
  · cases hreverse : digits.reverse with
    | nil => rfl
    | cons digit rest =>
        have hmem : digit ∈ digits := List.mem_reverse.mp (hreverse ▸ List.mem_cons_self)
        rw [List.dropWhile_cons, (hexDigit_spec digit (hdigits digit hmem)).1]
        rfl

theorem trim_digits {digits blanks : Bytes} (hne : digits ≠ [])
    (hblanks : ∀ byte ∈ blanks, isBlankByte byte = true)
    (hdigits : ∀ digit ∈ digits, isHexDigit digit = true) : trim (digits ++ blanks) = digits := by
  have hfront : (digits ++ blanks).dropWhile isSpace = digits ++ blanks := by
    obtain ⟨digit, rest, rfl⟩ := List.exists_cons_of_ne_nil hne
    rw [List.cons_append, List.dropWhile_cons,
      (hexDigit_spec digit (hdigits digit List.mem_cons_self)).1]
    rfl
  rw [trim, hfront, dropWhile_reverse hblanks hdigits, List.reverse_reverse]

section

variable {length : ℕ} (line : SizeLine length)

theorem sizeLine_no_end : ∀ byte ∈ line.text, byte ≠ 13 := by
  intro byte hbyte
  simp only [SizeLine.text, List.mem_append] at hbyte
  rcases hbyte with (hdigit | hblank) | hextension
  · exact (hexDigit_spec byte (line.digits_hex byte hdigit)).2.1
  · exact (blank_spec byte (line.blanks_blank byte hblank)).2.2.1
  · exact line.extension_text byte hextension

/-- The text before an extension. -/
theorem takeWhile_sizeLine : line.text.takeWhile (· ≠ 59) = line.digits ++ line.blanks := by
  apply takeWhile_append_of_stop
  · intro byte hbyte
    rcases List.mem_append.mp hbyte with hdigit | hblank
    · simpa using (hexDigit_spec byte (line.digits_hex byte hdigit)).2.2
    · simpa using (blank_spec byte (line.blanks_blank byte hblank)).2.2.2
  · rcases line.extension_head with hnil | hhead
    · rw [hnil]
      rfl
    · cases hextension : line.extension with
      | nil => rfl
      | cons byte rest =>
          rw [hextension] at hhead
          obtain rfl : byte = 59 := Option.some.inj hhead
          rfl

theorem endSize_text (hsafe : length ≤ maxSafeInteger) (boundary : WireRequestBoundary) :
    boundary.endSize line.text = .ok (if h : length = 0 then
      boundary.enter .trailer 0 (noBody rfl)
      else boundary.enter .data length fun _ ↦ Nat.pos_of_ne_zero h) := by
  have htrim := trim_digits line.digits_ne line.blanks_blank line.digits_hex
  have hall : line.digits.all isHexDigit = true := List.all_eq_true.mpr line.digits_hex
  have heq := line.digits_eq
  unfold endSize
  simp only [takeWhile_sizeLine, htrim, hall, heq]
  rw [if_neg (by simp [line.digits_ne]), if_neg (by omega)]
  split_ifs <;> rfl

theorem passes_size (hsafe : length ≤ maxSafeInteger) (h : boundary.Awaits .size) :
    Passes boundary (if h : length = 0 then boundary.enter .trailer 0 (noBody rfl)
      else boundary.enter .data length fun _ ↦ Nat.pos_of_ne_zero h) (line.text ++ crlf) := by
  apply passes_line h rfl (by decide) (sizeLine_no_end line) line.length_le
  rw [endLine, if_neg (by simp [h.state_eq]), if_pos h.state_eq]
  exact endSize_text line hsafe boundary

end

theorem passes_chunk (h : boundary.Awaits .size) (chunk : BodyChunk) :
    ∃ next, Passes boundary next chunk.bytes ∧ next.Awaits .size := by
  have hne : chunk.content.length ≠ 0 := by
    have hpos := List.length_pos_iff.mpr chunk.content_ne
    omega
  have hsize := passes_size chunk.size chunk.safe h
  rw [dif_neg hne] at hsize
  obtain ⟨entered, hentered⟩ : ∃ entered, entered =
      boundary.enter .data chunk.content.length fun _ ↦ by omega := ⟨_, rfl⟩
  rw [← hentered] at hsize
  have hcontent : Passes entered (entered.consume chunk.content.length) chunk.content := by
    apply passes_content
    · rw [hentered]
      rfl
    · rw [hentered]
      rfl
  have hconsumed : entered.consume chunk.content.length = entered.enter .dataCrlf 0 (noBody rfl) := by
    have hnone : entered.remaining - chunk.content.length = 0 := by
      rw [hentered]
      exact Nat.sub_self _
    have hstate : entered.state ≠ .fixed := by
      rw [hentered]
      exact show WireState.data ≠ .fixed by decide
    rw [consume, dif_pos hnone, if_neg hstate]
  rw [hconsumed] at hcontent
  obtain ⟨next, hcrlf, hnext⟩ := @passes_crlf (entered.enter .dataCrlf 0 (noBody rfl)) rfl rfl
  exact ⟨next, hsize.append (hcontent.append hcrlf), hnext⟩

theorem Passes.refl (boundary : WireRequestBoundary) : Passes boundary boundary [] := by
  refine ⟨feedLoop_nil boundary, fun part rest heq hrest ↦ ?_⟩
  exact absurd (List.append_eq_nil_iff.mp heq).2 hrest

theorem passes_chunks (chunks : List BodyChunk) (h : boundary.Awaits .size) :
    ∃ next, Passes boundary next (chunks.flatMap BodyChunk.bytes) ∧ next.Awaits .size := by
  induction chunks generalizing boundary with
  | nil => exact ⟨boundary, .refl boundary, h⟩
  | cons chunk chunks ih =>
      obtain ⟨next, hchunk, hnext⟩ := passes_chunk h chunk
      obtain ⟨last, hchunks, hlast⟩ := ih hnext
      exact ⟨last, hchunk.append hchunks, hlast⟩

theorem passes_trailers (trailers : List TrailerLine) (h : boundary.Awaits .trailer)
    (hremaining : boundary.remaining = 0) :
    Passes boundary (finish 0)
      (trailers.flatMap (fun trailer ↦ trailer.text ++ crlf) ++ crlf) := by
  have hheader : boundary.state ≠ .header := by simp [h.state_eq]
  have hsize : boundary.state ≠ .size := by simp [h.state_eq]
  induction trailers generalizing boundary with
  | nil =>
      have hend : boundary.endLine [] = .ok (finish 0) := by
        rw [endLine, if_neg hheader, if_neg hsize, if_pos rfl, hremaining]
      exact @passes_line boundary _ .trailer h rfl (by decide) [] (by simp) (by decide) hend
  | cons trailer trailers ih =>
      have hend : boundary.endLine trailer.text = .ok (boundary.enter .trailer 0 (noBody rfl)) := by
        rw [endLine, if_neg hheader, if_neg hsize, if_neg trailer.text_ne]
        simp only [hremaining]
      have hline := passes_line h rfl (by decide) trailer.no_end trailer.length_le hend
      rw [List.flatMap_cons, List.append_assoc]
      exact hline.append (ih ⟨rfl, rfl⟩ rfl (show WireState.trailer ≠ .header by decide)
        (show WireState.trailer ≠ .size by decide))

/-! ### Requests -/

/-- A request may begin. -/
def Idle (boundary : WireRequestBoundary) : Prop := boundary.Awaits .header

theorem idle_fresh : fresh.Idle := ⟨rfl, rfl⟩

theorem idle_finish (remaining : ℕ) : (finish remaining).Idle := ⟨rfl, rfl⟩

/-- The body of a request, behind its head. -/
theorem passes_body (request : Request) (h : boundary.Idle) :
    ∃ next, boundary.endLine request.head.lines = .ok next ∧
      Passes next (finish 0) request.body.bytes := by
  have hend : boundary.endLine request.head.lines = boundary.endHeader request.head.lines := by
    rw [endLine, if_pos h.state_eq]
  rw [hend]
  cases request.body with
  | fixed content hlength =>
      refine ⟨_, RequestHead.endHeader_fixed hlength boundary, ?_⟩
      rw [RequestBody.bytes]
      split_ifs with hzero
      · rw [List.length_eq_zero_iff.mp hzero]
        exact .refl _
      · obtain ⟨entered, hentered⟩ : ∃ entered, entered =
            boundary.enter .fixed content.length fun _ ↦ by omega := ⟨_, rfl⟩
        rw [← hentered]
        have hcontent : Passes entered (entered.consume content.length) content := by
          apply passes_content
          · rw [hentered]
            rfl
          · rw [hentered]
            rfl
        have hnone : entered.remaining - content.length = 0 := by
          rw [hentered]
          exact Nat.sub_self _
        have hstate : entered.state = .fixed := by
          rw [hentered]
          rfl
        rwa [consume, dif_pos hnone, if_pos hstate] at hcontent
  | chunked chunks last trailers hchunked =>
      refine ⟨_, RequestHead.endHeader_chunked hchunked boundary, ?_⟩
      obtain ⟨next, hchunks, hnext⟩ := passes_chunks chunks
        (show (boundary.enter .size boundary.remaining (noBody rfl)).Awaits .size from ⟨rfl, rfl⟩)
      have hsize := passes_size last (Nat.zero_le _) hnext
      rw [dif_pos rfl] at hsize
      have htrailers := passes_trailers trailers
        (show (next.enter .trailer 0 (noBody rfl)).Awaits .trailer from ⟨rfl, rfl⟩) rfl
      exact hchunks.append (hsize.append htrailers)

/-- A head that has come whole. -/
theorem feedLoop_head (request : Request) (h : boundary.Idle) (rest : Bytes) :
    boundary.feedLoop (request.head.bytes ++ rest) =
      boundary.endLine request.head.lines >>= fun next ↦ next.feedLoop rest := by
  have hline : boundary.state.isLine = true := by
    rw [h.state_eq]
    rfl
  have hmarker : boundary.state.marker = crlf ++ crlf := by
    rw [h.state_eq]
    rfl
  have hlimit : request.head.lines.length + boundary.state.marker.length ≤
      boundary.state.limit := by
    have hle := request.length_le
    rw [RequestHead.bytes, List.length_append] at hle
    rw [hmarker, h.state_eq]
    exact hle
  have hfound : indexOf boundary.state.marker
      (boundary.pending ++ (request.head.bytes ++ rest)) = some request.head.lines.length := by
    rw [hmarker, h.pending_eq, List.nil_append]
    exact request.head.indexOf_bytes rest
  rw [feedLoop_line hline hfound hlimit, h.pending_eq, hmarker, List.nil_append]
  have htake : (request.head.bytes ++ rest).take request.head.lines.length =
      request.head.lines := by
    rw [RequestHead.bytes, List.append_assoc, List.take_left]
  have hdrop : (request.head.bytes ++ rest).drop
      (request.head.lines.length + (crlf ++ crlf).length - ([] : Bytes).length) = rest := by
    apply List.drop_left'
    rw [RequestHead.bytes, List.length_append]
    rfl
  rw [htake, hdrop]

/-- A head of which a part has come. -/
theorem feedLoop_begunHead (request : Request) (h : boundary.Idle) {part rest : Bytes}
    (heq : part ++ rest = request.head.bytes) (hrest : rest ≠ []) :
    ∃ next, boundary.feedLoop part = .ok next ∧ next.state = .header ∧ next.pending = part ∧
      next.completed = boundary.completed := by
  have hline : boundary.state.isLine = true := by
    rw [h.state_eq]
    rfl
  have hmarker : boundary.state.marker = crlf ++ crlf := by
    rw [h.state_eq]
    rfl
  have hindex := request.head.indexOf_bytes []
  rw [List.append_nil] at hindex
  have hlengths := congrArg List.length heq
  have hpos := List.length_pos_iff.mpr hrest
  have hle := request.length_le
  rw [List.length_append] at hlengths
  have hnone : indexOf boundary.state.marker (boundary.pending ++ part) = none := by
    rw [hmarker, h.pending_eq, List.nil_append]
    apply indexOf_eq_none_of_start hindex ⟨rest, heq⟩
    rw [← List.length_append, ← RequestHead.bytes]
    omega
  have hroom : (boundary.pending ++ part).length ≤ boundary.state.limit := by
    rw [h.pending_eq, List.nil_append, h.state_eq]
    change part.length ≤ 16384
    omega
  refine ⟨_, feedLoop_keep hline hroom hnone, h.state_eq, ?_, rfl⟩
  change boundary.pending ++ part = part
  rw [h.pending_eq, List.nil_append]

/-- A request that has come whole. -/
theorem feedLoop_request (request : Request) (h : boundary.Idle) :
    boundary.feedLoop request.bytes = .ok (finish 0) := by
  obtain ⟨next, hend, hbody⟩ := passes_body request h
  rw [Request.bytes, feedLoop_head request h, hend]
  exact hbody.whole

theorem feedLoop_requests (requests : List Request) (h : boundary.Idle) :
    ∃ next, boundary.feedLoop (requests.flatMap Request.bytes) = .ok next ∧ next.Idle ∧
      (next.completed = true ↔ boundary.completed = true ∨ requests ≠ []) := by
  induction requests generalizing boundary with
  | nil => exact ⟨boundary, feedLoop_nil boundary, h, by simp⟩
  | cons request requests ih =>
      obtain ⟨next, hnext, hidle, hcompleted⟩ := ih (idle_finish 0)
      refine ⟨next, ?_, hidle, ?_⟩
      · rw [List.flatMap_cons, feedLoop_append, feedLoop_request request h]
        exact hnext
      · rw [hcompleted]
        exact iff_of_true (.inl rfl) (.inr (List.cons_ne_nil _ _))

/-- A part of two lists ends within the first of them, or behind it. -/
theorem part_cases {part rest first second : Bytes} (heq : part ++ rest = first ++ second) :
    (∃ more, more ≠ [] ∧ part ++ more = first) ∨
      ∃ more, part = first ++ more ∧ more ++ rest = second := by
  rcases List.append_eq_append_iff.mp heq with ⟨more, hfirst, hrest⟩ | ⟨more, hpart, hsecond⟩
  · by_cases hmore : more = []
    · subst hmore
      rw [List.append_nil] at hfirst
      exact .inr ⟨[], by rw [List.append_nil, hfirst], hrest⟩
    · exact .inl ⟨more, hmore, hfirst.symm⟩
  · exact .inr ⟨more, hpart, hsecond.symm⟩

/-- A request of which a part has come. -/
theorem feedLoop_begun (request : Request) (h : boundary.Idle) {part rest : Bytes}
    (heq : part ++ rest = request.bytes) (hrest : rest ≠ []) :
    ∃ next, boundary.feedLoop part = .ok next ∧
      (next.hasPartialHeader = true ↔ boundary.completed = true ∧ part ≠ [] ∧
        part <+: request.head.bytes ∧ part ≠ request.head.bytes) := by
  rcases part_cases heq with ⟨more, hmore, hhead⟩ | ⟨more, hpart, hbody⟩
  · obtain ⟨next, hnext, hstate, hpending, hcompleted⟩ :=
      feedLoop_begunHead request h hhead hmore
    have hstart : part <+: request.head.bytes := ⟨more, hhead⟩
    have hne : part ≠ request.head.bytes := by
      intro hpart
      rw [← hpart] at hhead
      exact hmore (List.append_right_eq_self.mp hhead)
    refine ⟨next, hnext, ?_⟩
    unfold hasPartialHeader
    rw [hstate, hpending, hcompleted, decide_eq_true_iff, List.length_pos_iff]
    constructor
    · rintro ⟨hcompleted, -, hpart⟩
      exact ⟨hcompleted, hpart, hstart, hne⟩
    · rintro ⟨hcompleted, hpart, -, -⟩
      exact ⟨hcompleted, rfl, hpart⟩
  · obtain ⟨between, hend, hpasses⟩ := passes_body request h
    obtain ⟨next, hnext, hstate⟩ := hpasses.inside more rest hbody hrest
    refine ⟨next, ?_, ?_⟩
    · rw [hpart, feedLoop_head request h, hend]
      exact hnext
    · unfold hasPartialHeader
      simp only [hstate, false_and, and_false, decide_false, Bool.false_eq_true, false_iff, not_and,
        not_not]
      intro _ _ hstart
      exact hstart.eq_of_length_le (by rw [hpart, List.length_append]; omega)

/-- However a connection is cut into chunks, its framing is that of its bytes. Every sequence of
requests is accepted, and behind it exactly a header of which a part has come is reported. -/
theorem framing_of_chunks :
    (∀ (boundary : WireRequestBoundary) (chunks : List Bytes),
      boundary.feedChunks chunks = (·.2) <$> boundary.feed chunks.flatten) ∧
    ∀ (requests : List Request) (request : Request) (part rest : Bytes),
      part ++ rest = request.bytes → rest ≠ [] → ∀ chunks : List Bytes,
        chunks.flatten = requests.flatMap Request.bytes ++ part →
        ∃ next, fresh.feedChunks chunks = .ok next ∧
          (next.hasPartialHeader = true ↔ requests ≠ [] ∧ part ≠ [] ∧
            part <+: request.head.bytes ∧ part ≠ request.head.bytes) := by
  constructor
  · intro boundary chunks
    rw [feedChunks_eq, feed]
    cases boundary.feedLoop chunks.flatten <;> rfl
  · intro requests request part rest heq hrest chunks hchunks
    obtain ⟨between, hrequests, hidle, hcompleted⟩ := feedLoop_requests requests idle_fresh
    obtain ⟨next, hnext, hreports⟩ := feedLoop_begun request hidle heq hrest
    refine ⟨next, ?_, ?_⟩
    · rw [feedChunks_eq, hchunks, feedLoop_append, hrequests]
      exact hnext
    · rw [hreports, hcompleted]
      simp [fresh]

/-! ### A request and the beginning of another -/

namespace Sample

set_option maxRecDepth 8000

def field : HeaderField where
  name := ascii "Content-Length"
  value := ascii " 2"
  name_ne := by decide
  name_token := by decide
  value_text := by decide

def head : RequestHead where
  method := ascii "POST"
  target := ascii "/results"
  version := ascii "HTTP/1.1"
  fields := [field]
  method_mem := by decide
  target_ne := by decide
  target_visible := by decide
  version_mem := by decide

theorem hasLength_head : head.HasLength (ascii "{}").length where
  no_coding := by
    intro other hother
    obtain rfl := List.mem_singleton.mp hother
    exact nofun
  exists_length := ⟨field, List.mem_singleton_self field, rfl⟩
  length_eq := by
    intro other hother _
    obtain rfl := List.mem_singleton.mp hother
    exact ⟨ascii "2", ⟨ascii " ", [], rfl, by decide, by decide⟩, by decide, by decide, rfl⟩
  safe := by decide

def request : Request where
  head := head
  body := .fixed (ascii "{}") hasLength_head
  length_le := by decide

end Sample

set_option maxRecDepth 8000 in
open Sample in
theorem framing_of_chunks_begun :
    ∃ next, fresh.feedChunks [request.bytes, ascii "PO"] = .ok next ∧
      next.hasPartialHeader = true := by
  obtain ⟨next, hnext, hreports⟩ := framing_of_chunks.2 [request] request (ascii "PO")
    (request.bytes.drop 2) rfl (by decide) [request.bytes, ascii "PO"] (by simp)
  refine ⟨next, hnext, hreports.mpr ⟨by decide, by decide, ?_, by decide⟩⟩
  exact ⟨request.head.bytes.drop 2, rfl⟩

end WireRequestBoundary

end Dona.ResultPublish
