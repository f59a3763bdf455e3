import FreeLunch.Providers.EventStream

/-!
# Chunks of an event stream

The adapter reads a stream in chunks.  Lines, carriage returns and characters may straddle
their ends, and the unfinished line is measured, with its carriage return, at the end of each
of them.

Main results:

- Theorem `bufferLines_append`: what is left of a buffer is carried to the next chunk.
- Theorem `eventStream_cases`: whatever the chunks, the outcome is that of the lines, or a
  comment as long as the limit was cut from its line feed.
- Theorem `eventStream_chunks_iff`: the streams whose outcome does not depend on the chunks.
-/

namespace FreeLunch
namespace Providers

open Gateway Python

/-! ## Buffers -/

theorem bufferLines_newline (rest : List UInt8) :
    bufferLines (newline :: rest) = ([] :: (bufferLines rest).1, (bufferLines rest).2) := by
  rw [bufferLines, if_pos rfl]

theorem bufferLines_cons_nil {b : UInt8} (hb : b ≠ newline) {rest remainder : List UInt8}
    (h : bufferLines rest = ([], remainder)) : bufferLines (b :: rest) = ([], b :: remainder) := by
  rw [bufferLines, if_neg hb, h]

theorem bufferLines_cons_cons {b : UInt8} (hb : b ≠ newline) {rest line remainder : List UInt8}
    {lines : List (List UInt8)} (h : bufferLines rest = (line :: lines, remainder)) :
    bufferLines (b :: rest) = ((b :: line) :: lines, remainder) := by
  rw [bufferLines, if_neg hb, h]

/-- What is left of a buffer is carried to what comes next. -/
theorem bufferLines_append (bytes more : List UInt8) :
    bufferLines (bytes ++ more) =
      ((bufferLines bytes).1 ++ (bufferLines ((bufferLines bytes).2 ++ more)).1,
        (bufferLines ((bufferLines bytes).2 ++ more)).2) := by
  induction bytes with
  | nil => rfl
  | cons b bytes ih =>
      rw [List.cons_append]
      by_cases hb : b = newline
      · rw [hb, bufferLines_newline, bufferLines_newline, ih]
        rfl
      · cases hbytes : bufferLines bytes with
        | mk lines remainder =>
            rw [hbytes] at ih
            cases lines with
            | nil =>
                rw [bufferLines_cons_nil hb hbytes, List.cons_append]
                rw [List.nil_append] at ih
                rw [bufferLines, if_neg hb, ih, bufferLines, if_neg hb]
                rfl
            | cons line lines =>
                rw [bufferLines_cons_cons hb hbytes, bufferLines_cons_cons hb ih]
                rfl

/-- Bytes without a newline are no line. -/
theorem bufferLines_of_not_mem {bytes : List UInt8} (h : newline ∉ bytes) :
    bufferLines bytes = ([], bytes) := by
  induction bytes with
  | nil => rfl
  | cons b bytes ih =>
      rw [List.mem_cons, not_or] at h
      exact bufferLines_cons_nil (Ne.symm h.1) (ih h.2)

/-- The first line of a buffer. -/
theorem bufferLines_line {line : List UInt8} (h : newline ∉ line) (rest : List UInt8) :
    bufferLines (line ++ newline :: rest) =
      (line :: (bufferLines rest).1, (bufferLines rest).2) := by
  rw [bufferLines_append, bufferLines_of_not_mem h]
  have hline : bufferLines (line ++ newline :: rest) =
      (line :: (bufferLines rest).1, (bufferLines rest).2) := by
    induction line with
    | nil => exact bufferLines_newline rest
    | cons b line ih =>
        rw [List.mem_cons, not_or] at h
        exact bufferLines_cons_cons (Ne.symm h.1) (ih h.2)
  rw [hline]
  rfl

/-- No newline is left. -/
theorem newline_not_mem_remainder (bytes : List UInt8) : newline ∉ (bufferLines bytes).2 := by
  induction bytes using List.reverseRecOn with
  | nil => simp [bufferLines]
  | append_singleton bytes b ih =>
      rw [bufferLines_append]
      by_cases hb : b = newline
      · rw [hb, bufferLines_line ih []]
        simp [bufferLines]
      · have hnone : newline ∉ (bufferLines bytes).2 ++ [b] := by
          rw [List.mem_append, List.mem_singleton, not_or]
          exact ⟨ih, Ne.symm hb⟩
        rw [bufferLines_of_not_mem hnone]
        exact hnone

/-- Bytes that are complete lines. -/
def Complete (bytes : List UInt8) : Prop :=
  bytes = [] ∨ bytes.getLast? = some newline

/-- Of complete lines nothing is left. -/
theorem Complete.remainder {bytes : List UInt8} (h : Complete bytes) :
    (bufferLines bytes).2 = [] := by
  rcases h with rfl | hlast
  · rfl
  · obtain ⟨start, rfl⟩ : ∃ start, bytes = start ++ [newline] := by
      rw [List.getLast?_eq_some_iff] at hlast
      exact hlast
    rw [bufferLines_append, bufferLines_line (newline_not_mem_remainder start) []]
    rfl

/-- Bytes are their complete lines and what is left. -/
theorem exists_complete (bytes : List UInt8) :
    ∃ start, bytes = start ++ (bufferLines bytes).2 ∧ Complete start ∧
      (bufferLines start).1 = (bufferLines bytes).1 := by
  induction bytes using List.reverseRecOn with
  | nil => exact ⟨[], rfl, .inl rfl, rfl⟩
  | append_singleton bytes b ih =>
      by_cases hb : b = newline
      · have hcomplete : Complete (bytes ++ [b]) := by
          refine .inr ?_
          rw [hb, List.getLast?_append]
          rfl
        exact ⟨bytes ++ [b], by rw [hcomplete.remainder, List.append_nil], hcomplete, rfl⟩
      · obtain ⟨start, hstart, hcomplete, hlines⟩ := ih
        have hnone : newline ∉ (bufferLines bytes).2 ++ [b] := by
          rw [List.mem_append, List.mem_singleton, not_or]
          exact ⟨newline_not_mem_remainder bytes, Ne.symm hb⟩
        rw [bufferLines_append, bufferLines_of_not_mem hnone]
        refine ⟨start, ?_, hcomplete, ?_⟩
        · rw [← List.append_assoc, ← hstart]
        · rw [hlines, List.append_nil]

/-- The bytes after complete lines are read by themselves. -/
theorem bufferLines_complete {start : List UInt8} (h : Complete start) (rest : List UInt8) :
    bufferLines (start ++ rest) =
      ((bufferLines start).1 ++ (bufferLines rest).1, (bufferLines rest).2) := by
  rw [bufferLines_append, h.remainder, List.nil_append]

/-! ## The outcome of the lines -/

/-- What follows the last newline. -/
def tail (stream : List UInt8) : List UInt8 :=
  (bufferLines stream).2

/-- The outcome that a size error gives after these lines. -/
def exceededAfter (lines : List (List UInt8)) : StreamOutcome where
  events := (groupingOf lines).closed.map eventOf
  raised := some (providerRetryableError "provider SSE event exceeded size limit")

/-- The last line, which no newline ends, does not fit into the last event. -/
def TailExceeds (maxSseEventBytes : Int) (stream : List UInt8) : Prop :=
  tail stream ≠ [] ∧
    maxSseEventBytes < (groupBytes (groupingOf (textLines stream)).pending +
      ((dropCarriageReturn (tail stream)).length + 1) : Nat)

/-- The groups of a stream with its last line taken for one of a group. -/
def allGroups (stream : List UInt8) : List (List (List UInt8)) :=
  if tail stream = [] then (groupingOf (textLines stream)).groups
  else
    (groupingOf (textLines stream)).closed ++
      [(groupingOf (textLines stream)).pending ++ [dropCarriageReturn (tail stream)]]

/-- The outcome of a stream that is read line by line. -/
inductive Reads (maxSseEventBytes : Int) (stream : List UInt8) : StreamOutcome → Prop where
  | whole (hlines : WithinLimits maxSseEventBytes (textLines stream))
      (htail : ¬ TailExceeds maxSseEventBytes stream) :
      Reads maxSseEventBytes stream ⟨(allGroups stream).map eventOf, none⟩
  | tailExceeds (hlines : WithinLimits maxSseEventBytes (textLines stream))
      (htail : TailExceeds maxSseEventBytes stream) :
      Reads maxSseEventBytes stream (exceededAfter (textLines stream))
  | breaks {first : List (List UInt8)} (h : Breaks maxSseEventBytes (textLines stream) first) :
      Reads maxSseEventBytes stream (exceededAfter first)

theorem Breaks.not_withinLimits {maxSseEventBytes : Int} (hmax : 0 ≤ maxSseEventBytes)
    {lines first : List (List UInt8)} (h : Breaks maxSseEventBytes lines first) :
    ¬ WithinLimits maxSseEventBytes lines := by
  obtain ⟨-, line, rest, rfl, hexceeds⟩ := h
  intro hwithin
  have hsplit : first ++ line :: rest = (first ++ [line]) ++ rest := by simp
  rw [hsplit] at hwithin
  exact hexceeds (withinLimits_of_append hmax hwithin)

/-- A stream has one outcome. -/
theorem Reads.unique {maxSseEventBytes : Int} (hmax : 0 ≤ maxSseEventBytes)
    {stream : List UInt8} {outcome other : StreamOutcome}
    (h : Reads maxSseEventBytes stream outcome) (hother : Reads maxSseEventBytes stream other) :
    outcome = other := by
  cases h with
  | whole hlines htail =>
      cases hother with
      | whole => rfl
      | tailExceeds _ hexceeds => exact absurd hexceeds htail
      | breaks hbreaks => exact absurd hlines (hbreaks.not_withinLimits hmax)
  | tailExceeds hlines htail =>
      cases hother with
      | whole _ hfits => exact absurd htail hfits
      | tailExceeds => rfl
      | breaks hbreaks => exact absurd hlines (hbreaks.not_withinLimits hmax)
  | breaks hbreaks =>
      cases hother with
      | whole hlines => exact absurd hlines (hbreaks.not_withinLimits hmax)
      | tailExceeds hlines => exact absurd hlines (hbreaks.not_withinLimits hmax)
      | breaks hbreaks' =>
          rw [← List.append_nil (textLines stream)] at hbreaks'
          rw [hbreaks.unique hmax hbreaks']

/-- What is left when the stream ends is read as the last line. -/
theorem endStream_reads {maxSseEventBytes : Int} {stream : List UInt8} {st : StreamState}
    (hholds : Holds st (groupingOf (textLines stream))) (hbuffer : st.lineBuffer = tail stream)
    (hlines : WithinLimits maxSseEventBytes (textLines stream)) :
    Reads maxSseEventBytes stream (endStream maxSseEventBytes st) := by
  unfold endStream
  rw [hbuffer]
  by_cases hempty : tail stream = []
  · have hfits : ¬ TailExceeds maxSseEventBytes stream := fun h => h.1 hempty
    have hwhole := Reads.whole hlines hfits
    unfold allGroups Grouping.groups at hwhole
    rw [if_pos hempty] at hwhole
    rw [hempty, List.isEmpty_nil, if_pos rfl, hholds.pendingLines, List.isEmpty_map]
    by_cases hopen : (groupingOf (textLines stream)).pending.isEmpty = true
    · rw [if_pos hopen] at hwhole ⊢
      rw [hholds.events]
      exact hwhole
    · rw [if_neg hopen, List.map_append] at hwhole
      rw [if_neg hopen]
      unfold StreamState.flush
      dsimp only
      rw [hholds.events, hholds.pendingLines]
      exact hwhole
  · have hisEmpty : (tail stream).isEmpty = false := by
      rw [← Bool.not_eq_true, List.isEmpty_iff]
      exact hempty
    rw [hisEmpty, if_neg Bool.false_ne_true, hholds.pendingBytes]
    dsimp only
    by_cases hexceeds : maxSseEventBytes <
        (groupBytes (groupingOf (textLines stream)).pending +
          ((dropCarriageReturn (tail stream)).length + 1) : Nat)
    · rw [if_pos hexceeds]
      have hread := Reads.tailExceeds hlines ⟨hempty, hexceeds⟩
      unfold StreamState.exceeded
      rw [hholds.events]
      exact hread
    · rw [if_neg hexceeds]
      have hwhole := Reads.whole hlines fun h : TailExceeds maxSseEventBytes stream =>
        hexceeds h.2
      unfold allGroups at hwhole
      rw [if_neg hempty, List.map_append] at hwhole
      unfold StreamState.flush
      dsimp only
      rw [hholds.events, hholds.pendingLines]
      unfold eventOf at hwhole
      rw [List.map_singleton, List.map_append, List.map_singleton] at hwhole
      exact hwhole

/-! ## Chunk by chunk -/

/-- The variables after some bytes that were read without an error. -/
structure After (maxSseEventBytes : Int) (bytes : List UInt8) (st : StreamState) : Prop where
  holds : Holds st (groupingOf (textLines bytes))
  buffer : st.lineBuffer = tail bytes
  within : WithinLimits maxSseEventBytes (textLines bytes)

theorem after_initial (maxSseEventBytes : Int) : After maxSseEventBytes [] .initial :=
  ⟨⟨rfl, rfl, rfl⟩, rfl, withinLimits_nil⟩

theorem textLines_append (bytes more : List UInt8) :
    textLines (bytes ++ more) =
      textLines bytes ++ (bufferLines (tail bytes ++ more)).1.map dropCarriageReturn := by
  unfold textLines tail
  rw [bufferLines_append, List.map_append]

theorem tail_append (bytes more : List UInt8) :
    tail (bytes ++ more) = (bufferLines (tail bytes ++ more)).2 := by
  unfold tail
  rw [bufferLines_append]

/-- A chunk is read to its end, or its unfinished line is too long, or one of its lines
exceeds the limits. -/
theorem readChunk_cases {maxSseEventBytes : Int} (hmax : 0 ≤ maxSseEventBytes)
    {bytes : List UInt8} {st : StreamState} (h : After maxSseEventBytes bytes st)
    (chunk : List UInt8) :
    (∃ st', readChunk maxSseEventBytes st chunk = .ok st' ∧
        After maxSseEventBytes (bytes ++ chunk) st') ∨
      (WithinLimits maxSseEventBytes (textLines (bytes ++ chunk)) ∧
        maxSseEventBytes < (tail (bytes ++ chunk)).length ∧
        readChunk maxSseEventBytes st chunk =
          .error (exceededAfter (textLines (bytes ++ chunk)))) ∨
      ∃ first, Breaks maxSseEventBytes (textLines (bytes ++ chunk)) first ∧
        readChunk maxSseEventBytes st chunk = .error (exceededAfter first) := by
  unfold readChunk
  rw [h.buffer, textLines_append]
  dsimp only
  rcases readLines_spec hmax h.holds h.within (bufferLines (tail bytes ++ chunk)).1 with
    ⟨hwithin, st', hread, hholds, -⟩ | ⟨first, st', hbreaks, hholds, hread⟩
  · rw [hread]
    dsimp only
    by_cases hlong : maxSseEventBytes < (bufferLines (tail bytes ++ chunk)).2.length
    · rw [if_pos hlong, tail_append]
      refine .inr (.inl ⟨hwithin, hlong, ?_⟩)
      unfold StreamState.exceeded
      rw [hholds.events]
      rfl
    · rw [if_neg hlong]
      refine .inl ⟨_, rfl, ⟨?_, (tail_append bytes chunk).symm, ?_⟩⟩
      · rw [textLines_append]
        exact ⟨hholds.events, hholds.pendingLines, hholds.pendingBytes⟩
      · rw [textLines_append]
        exact hwithin
  · rw [hread]
    refine .inr (.inr ⟨first, hbreaks, ?_⟩)
    dsimp only
    unfold StreamState.exceeded
    rw [hholds.events]
    rfl

/-- A comment as long as the limit, with its carriage return and line feed. -/
structure ExactComment (maxSseEventBytes : Int) (stream before comment after : List UInt8) :
    Prop where
  stream_eq : stream = before ++ comment ++ [carriageReturn, newline] ++ after
  starts : Complete before
  oneLine : newline ∉ comment
  isComment : isComment comment = true
  length_eq : (comment.length : Int) = maxSseEventBytes
  reached : WithinLimits maxSseEventBytes (textLines before)

/-- A line is its text, perhaps with a carriage return. -/
theorem dropCarriageReturn_cases (raw : List UInt8) :
    dropCarriageReturn raw = raw ∨ raw = dropCarriageReturn raw ++ [carriageReturn] := by
  unfold dropCarriageReturn
  by_cases hlast : raw.getLast? = some carriageReturn
  · rw [if_pos hlast]
    exact .inr (List.dropLast_append_getLast? _ hlast).symm
  · rw [if_neg hlast]
    exact .inl rfl

theorem length_dropCarriageReturn (raw : List UInt8) :
    (dropCarriageReturn raw).length ≤ raw.length ∧
      raw.length ≤ (dropCarriageReturn raw).length + 1 := by
  rcases dropCarriageReturn_cases raw with hsame | hmore
  · rw [hsame]
    exact ⟨Nat.le_refl _, Nat.le_succ _⟩
  · have hlength := congrArg List.length hmore
    rw [List.length_append, List.length_singleton] at hlength
    omega

/-- An unfinished line that is too long makes the line too long, or it is a comment as long
as the limit without its line feed. -/
theorem reads_of_long_tail {maxSseEventBytes : Int} (hmax : 1 ≤ maxSseEventBytes)
    {bytes : List UInt8} (hwithin : WithinLimits maxSseEventBytes (textLines bytes))
    (hlong : maxSseEventBytes < (tail bytes).length) (rest : List UInt8) :
    Reads maxSseEventBytes (bytes ++ rest) (exceededAfter (textLines bytes)) ∨
      ∃ before comment after, ExactComment maxSseEventBytes (bytes ++ rest) before comment after ∧
        textLines before = textLines bytes := by
  by_cases hmem : newline ∈ rest
  · obtain ⟨middle, after, rfl, hmiddle⟩ := List.eq_append_cons_of_mem hmem
    have hline : newline ∉ tail bytes ++ middle := by
      rw [List.mem_append, not_or]
      exact ⟨newline_not_mem_remainder bytes, hmiddle⟩
    have hlines : textLines (bytes ++ (middle ++ newline :: after)) =
        textLines bytes ++ dropCarriageReturn (tail bytes ++ middle) :: textLines after := by
      rw [textLines_append, ← List.append_assoc, bufferLines_line hline]
      rfl
    by_cases hnext : WithinLimits maxSseEventBytes
        (textLines bytes ++ [dropCarriageReturn (tail bytes ++ middle)])
    · right
      obtain ⟨-, hfits, hgroup⟩ := (withinLimits_concat (by omega)).mp hnext
      have hbounds := length_dropCarriageReturn (tail bytes ++ middle)
      rw [List.length_append] at hbounds
      have hmiddle : middle = [] := List.eq_nil_of_length_eq_zero (by omega)
      subst hmiddle
      rw [List.append_nil] at hline hfits hgroup hbounds
      have hlength : ((dropCarriageReturn (tail bytes)).length : Int) = maxSseEventBytes := by
        rw [List.length_nil] at hbounds
        omega
      have hraw : tail bytes = dropCarriageReturn (tail bytes) ++ [carriageReturn] := by
        rcases dropCarriageReturn_cases (tail bytes) with hsame | hmore
        · rw [hsame] at hlength
          omega
        · exact hmore
      obtain ⟨before, hbefore, hcomplete, hsame⟩ := exists_complete bytes
      have htext : textLines before = textLines bytes := by
        unfold textLines
        rw [hsame]
      refine ⟨before, dropCarriageReturn (tail bytes), after, ⟨?_, hcomplete, ?_, ?_, hlength,
        htext ▸ hwithin⟩, htext⟩
      · change bytes ++ newline :: after = _
        conv_lhs => rw [hbefore]
        change before ++ tail bytes ++ newline :: after = _
        conv_lhs => rw [hraw]
        simp
      · intro hmem'
        rw [hraw] at hline
        exact hline (List.mem_append_left _ hmem')
      · by_contra hother
        have hnonempty : ¬ (dropCarriageReturn (tail bytes)).isEmpty = true := by
          intro hnil
          rw [List.isEmpty_iff.mp hnil, List.length_nil] at hlength
          omega
        unfold Grouping.add at hgroup
        rw [if_neg hnonempty, if_neg hother] at hgroup
        dsimp only at hgroup
        rw [groupBytes_concat] at hgroup
        omega
    · left
      exact .breaks ⟨hwithin, _, _, hlines, hnext⟩
  · left
    have hline : newline ∉ tail bytes ++ rest := by
      rw [List.mem_append, not_or]
      exact ⟨newline_not_mem_remainder bytes, hmem⟩
    have hlines : textLines (bytes ++ rest) = textLines bytes := by
      rw [textLines_append, bufferLines_of_not_mem hline, List.map_nil, List.append_nil]
    have htail : tail (bytes ++ rest) = tail bytes ++ rest := by
      rw [tail_append, bufferLines_of_not_mem hline]
    rw [← hlines]
    refine .tailExceeds (hlines.symm ▸ hwithin) ⟨?_, ?_⟩
    · rw [htail]
      intro hnil
      rw [(List.append_eq_nil_iff.mp hnil).1, List.length_nil] at hlong
      omega
    · have hbounds := length_dropCarriageReturn (tail bytes ++ rest)
      rw [htail]
      rw [List.length_append] at hbounds
      omega

/-- The outcome of some more chunks. -/
def streamRest (maxSseEventBytes : Int) (st : StreamState) (chunks : List (List UInt8)) :
    StreamOutcome :=
  match readChunks maxSseEventBytes st chunks with
  | .error outcome => outcome
  | .ok st' => endStream maxSseEventBytes st'

/-- The outcome of a stream cut after the carriage return of a comment as long as the
limit. -/
def CutComment (maxSseEventBytes : Int) (stream : List UInt8) (outcome : StreamOutcome) : Prop :=
  ∃ before comment after, ExactComment maxSseEventBytes stream before comment after ∧
    outcome = exceededAfter (textLines before)

theorem breaks_append {maxSseEventBytes : Int} {bytes : List UInt8}
    {first : List (List UInt8)} (h : Breaks maxSseEventBytes (textLines bytes) first)
    (rest : List UInt8) : Breaks maxSseEventBytes (textLines (bytes ++ rest)) first := by
  obtain ⟨hwithin, line, more, hlines, hexceeds⟩ := h
  refine ⟨hwithin, line, more ++ (bufferLines (tail bytes ++ rest)).1.map dropCarriageReturn, ?_,
    hexceeds⟩
  rw [textLines_append, hlines, List.append_assoc, List.cons_append]

/-- Whatever the chunks that are left, the outcome is that of the lines of the stream, or of
a comment that was cut. -/
theorem streamRest_cases {maxSseEventBytes : Int} (hmax : 1 ≤ maxSseEventBytes)
    {bytes : List UInt8} {st : StreamState} (h : After maxSseEventBytes bytes st)
    (chunks : List (List UInt8)) :
    Reads maxSseEventBytes (bytes ++ chunks.flatten) (streamRest maxSseEventBytes st chunks) ∨
      CutComment maxSseEventBytes (bytes ++ chunks.flatten)
        (streamRest maxSseEventBytes st chunks) := by
  induction chunks generalizing bytes st with
  | nil =>
      rw [List.flatten_nil, List.append_nil]
      exact .inl (endStream_reads h.holds h.buffer h.within)
  | cons chunk chunks ih =>
      rw [List.flatten_cons, ← List.append_assoc]
      unfold streamRest
      rw [readChunks]
      rcases readChunk_cases (by omega) h chunk with
        ⟨st', hread, hafter⟩ | ⟨hwithin, hlong, hread⟩ | ⟨first, hbreaks, hread⟩
      · rw [hread]
        exact ih hafter
      · rw [hread]
        have hlate := reads_of_long_tail hmax hwithin hlong chunks.flatten
        rcases hlate with hreads | ⟨before, comment, after, hexact, hsame⟩
        · exact .inl hreads
        · exact .inr ⟨before, comment, after, hexact, by rw [hsame]⟩
      · rw [hread]
        exact .inl (.breaks (breaks_append hbreaks _))

/-- Whatever the chunks, the outcome is that of the lines of the stream, or of a comment that
was cut. -/
theorem eventStream_cases {maxSseEventBytes : Int} (hmax : 1 ≤ maxSseEventBytes)
    (chunks : List (List UInt8)) :
    Reads maxSseEventBytes chunks.flatten (eventStream maxSseEventBytes chunks) ∨
      CutComment maxSseEventBytes chunks.flatten (eventStream maxSseEventBytes chunks) :=
  streamRest_cases hmax (after_initial maxSseEventBytes) chunks

/-- A stream in one chunk has the outcome of its lines. -/
theorem eventStream_singleton {maxSseEventBytes : Int} (hmax : 1 ≤ maxSseEventBytes)
    (stream : List UInt8) :
    Reads maxSseEventBytes stream (eventStream maxSseEventBytes [stream]) := by
  unfold eventStream
  rw [readChunks]
  rcases readChunk_cases (by omega) (after_initial maxSseEventBytes) stream with
    ⟨st', hread, hafter⟩ | ⟨hwithin, hlong, hread⟩ | ⟨first, hbreaks, hread⟩
  · rw [hread]
    exact endStream_reads hafter.holds hafter.buffer hafter.within
  · rw [hread]
    refine .tailExceeds hwithin ⟨?_, ?_⟩
    · intro hnil
      change maxSseEventBytes < (tail stream).length at hlong
      rw [hnil, List.length_nil] at hlong
      omega
    · have hbounds := length_dropCarriageReturn (tail stream)
      change maxSseEventBytes < (tail stream).length at hlong
      omega
  · rw [hread]
    exact .breaks hbreaks

/-- A comment as long as the limit can be cut before its line feed, and then it exceeds the
limit. -/
theorem ExactComment.outcome {maxSseEventBytes : Int} {stream before comment after : List UInt8}
    (hmax : 1 ≤ maxSseEventBytes)
    (h : ExactComment maxSseEventBytes stream before comment after) :
    ∃ chunks : List (List UInt8), chunks.flatten = stream ∧
      eventStream maxSseEventBytes chunks = exceededAfter (textLines before) := by
  refine ⟨[before ++ comment ++ [carriageReturn], newline :: after], ?_, ?_⟩
  · rw [h.stream_eq]
    simp
  · have hcut : newline ∉ comment ++ [carriageReturn] := by
      rw [List.mem_append, List.mem_singleton, not_or]
      exact ⟨h.oneLine, by decide⟩
    have hbuffer := bufferLines_complete h.starts (comment ++ [carriageReturn])
    rw [bufferLines_of_not_mem hcut, List.append_nil, ← List.append_assoc] at hbuffer
    have hlines : textLines (before ++ comment ++ [carriageReturn]) = textLines before := by
      unfold textLines
      rw [hbuffer]
    have htail : tail (before ++ comment ++ [carriageReturn]) = comment ++ [carriageReturn] := by
      unfold tail
      rw [hbuffer]
    have hlength : ((comment ++ [carriageReturn]).length : Int) = maxSseEventBytes + 1 := by
      have hcomment := h.length_eq
      rw [List.length_append, List.length_singleton]
      omega
    unfold eventStream
    rw [readChunks]
    rcases readChunk_cases (by omega) (after_initial maxSseEventBytes)
        (before ++ comment ++ [carriageReturn]) with
      ⟨st', hread, hafter⟩ | ⟨-, -, hread⟩ | ⟨first, hbreaks, -⟩
    · unfold readChunk at hread
      have hinitial : StreamState.initial.lineBuffer ++ (before ++ comment ++ [carriageReturn]) =
          before ++ comment ++ [carriageReturn] := rfl
      rw [hinitial, hbuffer] at hread
      dsimp only at hread
      split at hread
      · cases hread
      · rw [if_pos (by omega)] at hread
        cases hread
    · rw [hread]
      dsimp only
      rw [List.nil_append, hlines]
    · rw [List.nil_append, hlines] at hbreaks
      exact absurd h.reached (hbreaks.not_withinLimits (by omega))

/-! ## The streams that every chunking reads alike -/

/-- Closed groups stay. -/
theorem closed_isPrefix_append (lines more : List (List UInt8)) :
    (groupingOf lines).closed <+: (groupingOf (lines ++ more)).closed := by
  induction more using List.reverseRecOn with
  | nil => simp only [List.append_nil, List.prefix_refl]
  | append_singleton more line ih =>
      rw [← List.append_assoc, groupingOf_concat]
      refine ih.trans ?_
      unfold Grouping.add
      split
      · split
        · exact List.prefix_refl _
        · exact List.prefix_append _ _
      · split <;> exact List.prefix_refl _

/-- After these lines the stream exceeds the limits before another event is complete. -/
def ExceedsNext (maxSseEventBytes : Int) (stream : List UInt8)
    (lines : List (List UInt8)) : Prop :=
  (∃ first, Breaks maxSseEventBytes (textLines stream) first ∧
      (groupingOf first).closed = (groupingOf lines).closed) ∨
    WithinLimits maxSseEventBytes (textLines stream) ∧
      TailExceeds maxSseEventBytes stream ∧
      (groupingOf (textLines stream)).closed = (groupingOf lines).closed

/-- Within the limits, a stream is read at least as far as its first lines. -/
theorem Breaks.prefix_of_within {maxSseEventBytes : Int} (hmax : 0 ≤ maxSseEventBytes)
    {lines more first : List (List UInt8)} (h : Breaks maxSseEventBytes (lines ++ more) first)
    (hwithin : WithinLimits maxSseEventBytes lines) : lines <+: first := by
  obtain ⟨-, line, rest, hlines, hexceeds⟩ := h
  rcases List.append_eq_append_iff.mp hlines with ⟨middle, hmiddle, -⟩ | ⟨middle, hmiddle, hrest⟩
  · exact ⟨middle, hmiddle.symm⟩
  · cases middle with
    | nil =>
        rw [List.append_nil] at hmiddle
        exact ⟨[], by rw [List.append_nil, hmiddle]⟩
    | cons head middle =>
        obtain ⟨rfl, -⟩ := List.cons_eq_cons.mp hrest
        have hsplit : first ++ line :: middle = (first ++ [line]) ++ middle := by simp
        rw [hmiddle, hsplit] at hwithin
        exact absurd (withinLimits_of_append hmax hwithin) hexceeds

/-- The outcome after some lines is that of the stream exactly when the stream exceeds the
limits before another event is complete. -/
theorem reads_exceededAfter_iff {maxSseEventBytes : Int} (hmax : 0 ≤ maxSseEventBytes)
    {stream : List UInt8} {lines more : List (List UInt8)}
    (hlines : textLines stream = lines ++ more)
    (hwithin : WithinLimits maxSseEventBytes lines) :
    Reads maxSseEventBytes stream (exceededAfter lines) ↔
      ExceedsNext maxSseEventBytes stream lines := by
  have hsame : ∀ longer : List (List UInt8), lines <+: longer →
      exceededAfter longer = exceededAfter lines →
        (groupingOf longer).closed = (groupingOf lines).closed := by
    rintro longer ⟨rest, rfl⟩ heq
    have hevents := congrArg (fun outcome => outcome.events.length) heq
    unfold exceededAfter at hevents
    dsimp only at hevents
    rw [List.length_map, List.length_map] at hevents
    exact ((closed_isPrefix_append lines rest).eq_of_length hevents.symm).symm
  constructor
  · intro hreads
    generalize houtcome : exceededAfter lines = outcome at hreads
    cases hreads with
    | whole =>
        have hraised := congrArg StreamOutcome.raised houtcome
        cases hraised
    | tailExceeds hall htail =>
        exact .inr ⟨hall, htail, hsame _ ⟨more, hlines.symm⟩ houtcome.symm⟩
    | breaks hbreaks =>
        have hleading := (hlines ▸ hbreaks).prefix_of_within hmax hwithin
        exact .inl ⟨_, hbreaks, hsame _ hleading houtcome.symm⟩
  · have hclosed : ∀ longer : List (List UInt8),
        (groupingOf longer).closed = (groupingOf lines).closed →
          exceededAfter longer = exceededAfter lines := by
      intro longer heq
      unfold exceededAfter
      rw [heq]
    rintro (⟨first, hbreaks, heq⟩ | ⟨hall, htail, heq⟩)
    · exact hclosed first heq ▸ Reads.breaks hbreaks
    · exact hclosed _ heq ▸ Reads.tailExceeds hall htail

/-- The lines before a comment of a stream are among its lines. -/
theorem ExactComment.textLines_eq {maxSseEventBytes : Int}
    {stream before comment after : List UInt8}
    (h : ExactComment maxSseEventBytes stream before comment after) :
    ∃ more, textLines stream = textLines before ++ more := by
  have hstream : stream = before ++ (comment ++ [carriageReturn, newline] ++ after) := by
    rw [h.stream_eq]
    simp
  rw [hstream]
  exact ⟨_, textLines_append before _⟩

/-- The outcome of a stream does not depend on how it is cut into chunks exactly when every
comment as long as the limit that a carriage return and a line feed end, and that is reached,
is followed by a size error before another event is complete. -/
theorem eventStream_chunks_iff {maxSseEventBytes : Int} (hmax : 1 ≤ maxSseEventBytes)
    (stream : List UInt8) :
    (∀ chunks others : List (List UInt8), chunks.flatten = stream → others.flatten = stream →
        eventStream maxSseEventBytes chunks = eventStream maxSseEventBytes others) ↔
      ∀ before comment after, ExactComment maxSseEventBytes stream before comment after →
        ExceedsNext maxSseEventBytes stream (textLines before) := by
  constructor
  · intro hsame before comment after hexact
    obtain ⟨chunks, hflatten, houtcome⟩ := hexact.outcome hmax
    obtain ⟨more, hmore⟩ := hexact.textLines_eq
    have hone := hsame chunks [stream] hflatten (by simp)
    have hreads := eventStream_singleton hmax stream
    rw [← hone, houtcome] at hreads
    exact (reads_exceededAfter_iff (by omega) hmore hexact.reached).mp hreads
  · intro hexceeds
    have hreads : ∀ chunks : List (List UInt8), chunks.flatten = stream →
        Reads maxSseEventBytes stream (eventStream maxSseEventBytes chunks) := by
      intro chunks hflatten
      have hcases := eventStream_cases hmax chunks
      rw [hflatten] at hcases
      rcases hcases with hreads | ⟨before, comment, after, hexact, houtcome⟩
      · exact hreads
      · obtain ⟨more, hmore⟩ := hexact.textLines_eq
        rw [houtcome]
        exact (reads_exceededAfter_iff (by omega) hmore hexact.reached).mpr
          (hexceeds before comment after hexact)
    intro chunks others hchunks hothers
    exact (hreads chunks hchunks).unique (by omega) (hreads others hothers)

/-- The bytes of an ASCII text. -/
def ascii (text : String) : List UInt8 :=
  text.toList.map fun c => UInt8.ofNat c.toNat

/-- A heartbeat comment as long as the limit: in one chunk it is dropped and the event after
it is emitted, and cut before its line feed it exceeds the limit. -/
theorem cut_comment_exceeds :
    eventStream 8 [ascii ": beats!\r\ndata: x\n\n"] = ⟨[ascii "data: x\n\n"], none⟩ ∧
      eventStream 8 [ascii ": beats!\r", ascii "\ndata: x\n\n"] =
        ⟨[], some (providerRetryableError "provider SSE event exceeded size limit")⟩ ∧
      [ascii ": beats!\r\ndata: x\n\n"].flatten =
        [ascii ": beats!\r", ascii "\ndata: x\n\n"].flatten := by
  decide

/-- A comment as long as the limit, and what follows it, at their place in the stream. -/
theorem ExactComment.at_place {maxSseEventBytes : Int} {stream before comment after : List UInt8}
    (h : ExactComment maxSseEventBytes stream before comment after) :
    (stream.drop before.length).take comment.length = comment ∧
      (stream.drop (before.length + comment.length)).take 2 = [carriageReturn, newline] := by
  rw [h.stream_eq]
  constructor
  · rw [List.append_assoc, List.append_assoc, List.drop_left, List.take_left]
  · rw [List.append_assoc, ← List.length_append, List.drop_left]
    rfl

/-- Two events and a comment, with carriage returns in front of the first line feeds. -/
def heartbeatStream : List UInt8 :=
  ascii "data: x\r\n\r\n: beats!\ndata: y\n\n"

/-- No comment of the limit's length ends there with a carriage return and a line feed. -/
theorem not_exactComment_heartbeatStream (before comment after : List UInt8) :
    ¬ ExactComment 8 heartbeatStream before comment after := by
  intro h
  have hplaces : ∀ k < heartbeatStream.length,
      (heartbeatStream.drop (k + 8)).take 2 = [carriageReturn, newline] →
        newline ∈ (heartbeatStream.drop k).take 8 ∨
          isComment ((heartbeatStream.drop k).take 8) = false := by
    decide
  obtain ⟨hcomment, hends⟩ := h.at_place
  have height : comment.length = 8 := by
    have hlength := h.length_eq
    omega
  have hbefore : before.length < heartbeatStream.length := by
    rw [h.stream_eq]
    simp only [List.length_append, List.length_cons]
    omega
  rw [height] at hcomment hends
  rcases hplaces before.length hbefore hends with hline | hevent
  · rw [hcomment] at hline
    exact h.oneLine hline
  · rw [hcomment, h.isComment] at hevent
    cases hevent

/-- A comment as long as the limit that a line feed alone ends can be cut anywhere, and so can
the events around it. -/
theorem eventStream_chunks_plain :
    eventStream 8 (heartbeatStream.map ([·])) = eventStream 8 [heartbeatStream] ∧
      (eventStream 8 [heartbeatStream]).events = [ascii "data: x\n\n", ascii "data: y\n\n"] := by
  refine ⟨?_, by decide⟩
  refine (eventStream_chunks_iff (by decide : (1 : Int) ≤ 8) heartbeatStream).mpr ?_
    (heartbeatStream.map ([·])) [heartbeatStream] (by decide) (by decide)
  intro before comment after hexact
  exact absurd hexact (not_exactComment_heartbeatStream before comment after)

end Providers
end FreeLunch
