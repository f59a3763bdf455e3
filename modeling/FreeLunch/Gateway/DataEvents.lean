import FreeLunch.Gateway.RelayStream
import FreeLunch.Providers.EventChunks
import FreeLunch.Python.JsonExtension
import Mathlib.Algebra.Order.BigOperators.Group.List
import Mathlib.Algebra.Order.Group.Nat
import Mathlib.Data.List.TakeWhile

/-!
# One data event

An event with one data field, as a server sends it: other fields and comments, the data field
with an object or the end marker in it, an empty line.  The adapter splits at line feeds and
emits the fields again; `_parse_stream_event` splits what it gets with `str.splitlines`, which
knows more line breaks, and wants a space after the colon.

Main results:

- Theorem `DataEvent.Fits.eventStream`: an event within the limits is emitted with its fields.
- Theorem `DataEvent.selected_eq`: which piece of which field the parser reads.
- Theorem `ObjectText.loads_cut`: an object is no document without what follows a line break.
- Theorem `data_event_iff`: the events whose object or end marker is yielded.
-/

namespace FreeLunch
namespace Gateway

open Providers Python

/-! ## What is sent -/

/-- A line as it is sent, with its ending. -/
structure SentLine where
  text : List Char
  crlf : Bool
  oneLine : '\n' ∉ text ∧ '\r' ∉ text

/-- The bytes of a line up to its line feed. -/
def SentLine.raw (line : SentLine) : List UInt8 :=
  encodeUtf8 line.text ++ if line.crlf then [carriageReturn] else []

/-- The bytes of a line. -/
def SentLine.bytes (line : SentLine) : List UInt8 :=
  line.raw ++ [newline]

/-- The name of a field; a comment has an empty one. -/
def fieldName (line : List Char) : List Char :=
  line.takeWhile (· != ':')

/-- An event with one data field, which holds a text without line feeds and carriage returns,
perhaps between blanks, behind other fields and comments. -/
structure DataEvent where
  others : List SentLine
  otherFields : ∀ line ∈ others, line.text ≠ [] ∧ fieldName line.text ≠ "data".toList
  left : List Char
  text : List Char
  right : List Char
  blanks : ∀ c ∈ left ++ right, c = ' ' ∨ c = '\t'
  oneLine : '\n' ∉ text ∧ '\r' ∉ text
  dataCrlf : Bool
  endCrlf : Bool

/-- The text of the data field. -/
def DataEvent.dataText (event : DataEvent) : List Char :=
  "data:".toList ++ event.left ++ event.text ++ event.right

theorem DataEvent.oneLine_dataText (event : DataEvent) :
    '\n' ∉ event.dataText ∧ '\r' ∉ event.dataText := by
  have hblank : ∀ c, c ≠ ' ' → c ≠ '\t' → c ∉ event.left ∧ c ∉ event.right := by
    intro c hspace htab
    refine ⟨fun hc => ?_, fun hc => ?_⟩
    · rcases event.blanks c (List.mem_append_left _ hc) with rfl | rfl
      · exact hspace rfl
      · exact htab rfl
    · rcases event.blanks c (List.mem_append_right _ hc) with rfl | rfl
      · exact hspace rfl
      · exact htab rfl
  have hnewline := hblank '\n' (by decide) (by decide)
  have hreturn := hblank '\r' (by decide) (by decide)
  unfold DataEvent.dataText
  simp only [List.mem_append, not_or]
  exact ⟨⟨⟨⟨by decide, hnewline.1⟩, event.oneLine.1⟩, hnewline.2⟩,
    ⟨⟨⟨by decide, hreturn.1⟩, event.oneLine.2⟩, hreturn.2⟩⟩

/-- The lines of an event, the last of them empty. -/
def DataEvent.lines (event : DataEvent) : List SentLine :=
  event.others ++ [⟨event.dataText, event.dataCrlf, event.oneLine_dataText⟩,
    ⟨[], event.endCrlf, List.not_mem_nil, List.not_mem_nil⟩]

/-- The bytes of an event. -/
def DataEvent.stream (event : DataEvent) : List UInt8 :=
  event.lines.flatMap SentLine.bytes

/-- The fields other than the data field. -/
def DataEvent.otherTexts (event : DataEvent) : List (List Char) :=
  (event.others.map SentLine.text).filter fun line => line.head? != some ':'

/-- The fields. -/
def DataEvent.fields (event : DataEvent) : List (List Char) :=
  event.otherTexts ++ [event.dataText]

/-- No line ahead of the data field, with its carriage return, and not the fields together
exceed the limit. -/
structure DataEvent.Fits (event : DataEvent) (maxSseEventBytes : Int) : Prop where
  lines : ∀ line ∈ event.others, (line.raw.length : Int) ≤ maxSseEventBytes
  fields : (groupBytes (event.fields.map encodeUtf8) : Int) ≤ maxSseEventBytes

/-! ## The lines of an event -/

theorem not_mem_encodeUtf8 {text : List Char} {c : Char} (hc : c.toNat ≤ 0x7f) (h : c ∉ text) :
    UInt8.ofNat c.toNat ∉ encodeUtf8 text := by
  intro hmem
  have hcode : (UInt8.ofNat c.toNat).toNat = c.toNat := toNat_byte (by omega)
  obtain ⟨d, hd, hsame⟩ := mem_of_mem_encodeUtf8 hmem (by omega)
  rw [hcode] at hsame
  rw [Char.toNat_inj.mp hsame] at hd
  exact h hd

theorem SentLine.newline_not_mem_raw (line : SentLine) : newline ∉ line.raw := by
  have hnone : newline ∉ encodeUtf8 line.text := not_mem_encodeUtf8 (c := '\n') (by decide)
    line.oneLine.1
  unfold SentLine.raw
  rw [List.mem_append, not_or]
  refine ⟨hnone, ?_⟩
  cases line.crlf <;> decide

theorem SentLine.dropCarriageReturn_raw (line : SentLine) :
    dropCarriageReturn line.raw = encodeUtf8 line.text := by
  have hnone : carriageReturn ∉ encodeUtf8 line.text := not_mem_encodeUtf8 (c := '\r')
    (by decide) line.oneLine.2
  unfold SentLine.raw dropCarriageReturn
  cases line.crlf with
  | true => simp
  | false =>
      rw [if_neg Bool.false_ne_true, List.append_nil, if_neg]
      intro hlast
      exact hnone (List.mem_of_getLast? hlast)

/-- The lines are read as they were sent. -/
theorem bufferLines_flatMap (lines : List SentLine) :
    bufferLines (lines.flatMap SentLine.bytes) = (lines.map SentLine.raw, []) := by
  induction lines with
  | nil => rfl
  | cons line lines ih =>
      rw [List.flatMap_cons]
      unfold SentLine.bytes at ih ⊢
      rw [List.append_assoc, List.singleton_append,
        bufferLines_line line.newline_not_mem_raw, ih]
      rfl

theorem textLines_flatMap (lines : List SentLine) :
    textLines (lines.flatMap SentLine.bytes) = lines.map fun line => encodeUtf8 line.text := by
  unfold textLines
  rw [bufferLines_flatMap, List.map_map]
  exact List.map_congr_left fun line _ => line.dropCarriageReturn_raw

theorem tail_flatMap (lines : List SentLine) : tail (lines.flatMap SentLine.bytes) = [] := by
  unfold tail
  rw [bufferLines_flatMap]

/-- A comment is seen in its bytes. -/
theorem isComment_encodeUtf8 (text : List Char) :
    isComment (encodeUtf8 text) = (text.head? == some ':') := by
  have hhead := head_decodeReplace (encodeUtf8 text) (c := ':') (by decide)
  rw [decodeReplace_encodeUtf8] at hhead
  unfold isComment
  rw [Bool.eq_iff_iff, beq_iff_eq, beq_iff_eq]
  exact hhead.symm

theorem isEmpty_encodeUtf8 {text : List Char} (h : text ≠ []) :
    (encodeUtf8 text).isEmpty = false := by
  rw [← Bool.not_eq_true, List.isEmpty_iff]
  intro hnil
  have hback := decodeReplace_encodeUtf8 text
  rw [hnil] at hback
  exact h hback.symm

/-- Lines that are not empty leave the group open: they join it, unless they are comments. -/
theorem foldl_add {texts : List (List Char)} (h : ∀ text ∈ texts, text ≠ [])
    (grouping : Grouping) :
    (texts.map encodeUtf8).foldl Grouping.add grouping =
      ⟨grouping.closed, grouping.pending ++
        (texts.filter fun text => text.head? != some ':').map encodeUtf8⟩ := by
  induction texts generalizing grouping with
  | nil => simp
  | cons text texts ih =>
      rw [List.forall_mem_cons] at h
      rw [List.map_cons, List.foldl_cons, ih h.2, List.filter_cons]
      unfold Grouping.add
      rw [isEmpty_encodeUtf8 h.1, if_neg Bool.false_ne_true, isComment_encodeUtf8, bne]
      cases hcomment : text.head? == some ':' with
      | true => simp
      | false => simp

/-- The lines before the empty one. -/
def DataEvent.openTexts (event : DataEvent) : List (List Char) :=
  event.others.map SentLine.text ++ [event.dataText]

theorem DataEvent.ne_nil_of_mem_openTexts (event : DataEvent) :
    ∀ text ∈ event.openTexts, text ≠ [] := by
  intro text htext
  unfold DataEvent.openTexts at htext
  rw [List.mem_append, List.mem_singleton] at htext
  rcases htext with hother | rfl
  · obtain ⟨line, hline, rfl⟩ := List.mem_map.mp hother
    exact (event.otherFields line hline).1
  · intro hnil
    cases hnil

theorem DataEvent.filter_openTexts (event : DataEvent) :
    (event.openTexts.filter fun text => text.head? != some ':') = event.fields := by
  unfold DataEvent.openTexts DataEvent.fields DataEvent.otherTexts
  rw [List.filter_append]
  rfl

theorem DataEvent.textLines_stream (event : DataEvent) :
    textLines event.stream = event.openTexts.map encodeUtf8 ++ [[]] := by
  unfold DataEvent.stream
  rw [textLines_flatMap]
  unfold DataEvent.lines DataEvent.openTexts
  rw [List.map_append, List.map_append, List.map_map, List.append_assoc]
  rfl

/-- The event is one group. -/
theorem DataEvent.groupingOf_stream (event : DataEvent) :
    groupingOf (textLines event.stream) = ⟨[event.fields.map encodeUtf8], []⟩ := by
  have hopen : groupingOf (event.openTexts.map encodeUtf8) =
      ⟨[], event.fields.map encodeUtf8⟩ := by
    unfold groupingOf
    rw [foldl_add event.ne_nil_of_mem_openTexts, event.filter_openTexts]
    rfl
  have hsome : (event.fields.map encodeUtf8).isEmpty = false := by
    unfold DataEvent.fields
    simp
  rw [event.textLines_stream, groupingOf_concat, hopen]
  unfold Grouping.add
  rw [List.isEmpty_nil, if_pos rfl, hsome]
  rfl

theorem DataEvent.tail_stream (event : DataEvent) : tail event.stream = [] :=
  tail_flatMap event.lines

theorem DataEvent.allGroups_stream (event : DataEvent) :
    allGroups event.stream = [event.fields.map encodeUtf8] := by
  unfold allGroups
  rw [if_pos event.tail_stream, event.groupingOf_stream]
  rfl

/-- The event is emitted with its fields as they were sent. -/
theorem eventOf_map_encodeUtf8 (texts : List (List Char)) :
    eventOf (texts.map encodeUtf8) = encodeLines texts := by
  unfold eventOf
  have hsame : decodeReplace ∘ encodeUtf8 = id := funext decodeReplace_encodeUtf8
  rw [List.map_map, hsame, List.map_id]

/-! ## The limits -/

theorem length_le_groupBytes {group : List (List UInt8)} {line : List UInt8}
    (h : line ∈ group) : line.length + 1 ≤ groupBytes group :=
  List.le_sum_of_mem (List.mem_map_of_mem h)

theorem SentLine.length_raw (line : SentLine) :
    line.raw.length = (encodeUtf8 line.text).length + if line.crlf then 1 else 0 := by
  unfold SentLine.raw
  rw [List.length_append]
  cases line.crlf <;> rfl

/-- An event that fits is within the limits of the adapter. -/
theorem DataEvent.Fits.withinLimits {event : DataEvent} {maxSseEventBytes : Int}
    (hmax : 1 ≤ maxSseEventBytes) (h : event.Fits maxSseEventBytes) :
    WithinLimits maxSseEventBytes (textLines event.stream) := by
  refine ⟨?_, ?_⟩
  · intro line hline
    rw [event.textLines_stream, List.mem_append, List.mem_singleton, List.mem_map] at hline
    rcases hline with ⟨text, htext, rfl⟩ | rfl
    · unfold DataEvent.openTexts at htext
      rw [List.mem_append, List.mem_singleton] at htext
      rcases htext with hother | rfl
      · obtain ⟨line, hline, rfl⟩ := List.mem_map.mp hother
        have hlength := h.lines line hline
        rw [line.length_raw] at hlength
        omega
      · have hmem : encodeUtf8 event.dataText ∈ event.fields.map encodeUtf8 := by
          unfold DataEvent.fields
          simp
        have hlength := length_le_groupBytes hmem
        have hfields := h.fields
        omega
    · rw [List.length_nil]
      omega
  · intro group hgroup
    rw [event.groupingOf_stream] at hgroup
    obtain rfl := List.mem_singleton.mp hgroup
    exact h.fields

/-- A line that ends within a stream of complete lines is one of them. -/
theorem mem_raw_of_exactComment {maxSseEventBytes : Int} {lines : List SentLine}
    {before comment after : List UInt8}
    (h : ExactComment maxSseEventBytes (lines.flatMap SentLine.bytes) before comment after) :
    ∃ line ∈ lines, line.raw = comment ++ [carriageReturn] := by
  have hlines := congrArg (fun bytes => (bufferLines bytes).1) h.stream_eq
  have hsplit : before ++ comment ++ [carriageReturn, newline] ++ after =
      before ++ ((comment ++ [carriageReturn]) ++ newline :: after) := by simp
  have hnone : newline ∉ comment ++ [carriageReturn] := by
    rw [List.mem_append, List.mem_singleton, not_or]
    exact ⟨h.oneLine, by decide⟩
  rw [bufferLines_flatMap, hsplit, bufferLines_complete h.starts, bufferLines_line hnone]
    at hlines
  dsimp only at hlines
  have hmem : comment ++ [carriageReturn] ∈ lines.map SentLine.raw := by
    rw [hlines]
    simp
  obtain ⟨line, hline, hraw⟩ := List.mem_map.mp hmem
  exact ⟨line, hline, hraw⟩

/-- In an event that fits, no comment is as long as the limit with its carriage return cut
off. -/
theorem DataEvent.Fits.not_exactComment {event : DataEvent} {maxSseEventBytes : Int}
    (hmax : 1 ≤ maxSseEventBytes) (h : event.Fits maxSseEventBytes)
    (before comment after : List UInt8) :
    ¬ ExactComment maxSseEventBytes event.stream before comment after := by
  intro hexact
  have hlength := hexact.length_eq
  obtain ⟨line, hline, hraw⟩ := mem_raw_of_exactComment hexact
  have hrawLength := congrArg List.length hraw
  rw [List.length_append, List.length_singleton] at hrawLength
  unfold DataEvent.lines at hline
  rw [List.mem_append] at hline
  rcases hline with hother | hlast
  · have hfits := h.lines line hother
    omega
  · rw [List.mem_cons, List.mem_singleton] at hlast
    rcases hlast with rfl | rfl
    · cases comment with
      | nil =>
          rw [List.length_nil] at hlength
          omega
      | cons b comment =>
          have hhead := congrArg List.head? hraw
          have hcomment := hexact.isComment
          unfold Providers.isComment at hcomment
          rw [beq_iff_eq, List.head?_cons] at hcomment
          rw [List.cons_append, List.head?_cons, hcomment] at hhead
          cases hhead
    · rw [SentLine.length_raw] at hrawLength
      have hempty : (encodeUtf8 []).length = 0 := rfl
      dsimp only at hrawLength
      split at hrawLength <;> omega

/-- An event that fits is emitted, however its bytes are cut into chunks. -/
theorem DataEvent.Fits.eventStream {event : DataEvent} {maxSseEventBytes : Int}
    (hmax : 1 ≤ maxSseEventBytes) (h : event.Fits maxSseEventBytes)
    {chunks : List (List UInt8)} (hchunks : chunks.flatten = event.stream) :
    eventStream maxSseEventBytes chunks = ⟨[encodeLines event.fields], none⟩ := by
  have hwithin := h.withinLimits hmax
  have hcases := eventStream_cases hmax chunks
  rw [hchunks] at hcases
  rcases hcases with hreads | ⟨before, comment, after, hexact, -⟩
  · have htail : ¬ TailExceeds maxSseEventBytes event.stream :=
      fun hexceeds => hexceeds.1 event.tail_stream
    rw [hreads.unique (by omega) (.whole hwithin htail), event.allGroups_stream,
      List.map_singleton, eventOf_map_encodeUtf8]
  · exact absurd hexact (h.not_exactComment hmax before comment after)

theorem complete_flatMap (lines : List SentLine) : Complete (lines.flatMap SentLine.bytes) := by
  induction lines using List.reverseRecOn with
  | nil => exact .inl rfl
  | append_singleton lines line ih =>
      refine .inr ?_
      rw [List.flatMap_append, List.flatMap_singleton]
      unfold SentLine.bytes
      rw [← List.append_assoc, List.getLast?_concat]

/-- An event that is emitted however its bytes are cut fits. -/
theorem DataEvent.fits_of_emitted {event : DataEvent} {maxSseEventBytes : Int}
    (hmax : 1 ≤ maxSseEventBytes)
    (h : ∀ chunks : List (List UInt8), chunks.flatten = event.stream →
      (Providers.eventStream maxSseEventBytes chunks).raised = none) :
    event.Fits maxSseEventBytes := by
  have hwithin : WithinLimits maxSseEventBytes (textLines event.stream) := by
    have hone := h [event.stream] (by simp)
    have hreads := eventStream_singleton hmax event.stream
    generalize Providers.eventStream maxSseEventBytes [event.stream] = outcome at hone hreads
    cases hreads with
    | whole hlines => exact hlines
    | tailExceeds hlines => exact hlines
    | breaks => cases hone
  have hfields : (groupBytes (event.fields.map encodeUtf8) : Int) ≤ maxSseEventBytes := by
    refine hwithin.2 _ ?_
    rw [event.groupingOf_stream]
    exact List.mem_singleton_self _
  refine ⟨?_, hfields⟩
  intro line hline
  by_contra hlong
  have hshort : ((encodeUtf8 line.text).length : Int) ≤ maxSseEventBytes := by
    refine hwithin.1 _ ?_
    rw [event.textLines_stream]
    refine List.mem_append_left _ (List.mem_map_of_mem ?_)
    exact List.mem_append_left _ (List.mem_map_of_mem hline)
  rw [line.length_raw] at hlong
  have hcrlf : line.crlf = true := by
    cases hcrlf : line.crlf with
    | true => rfl
    | false =>
        rw [hcrlf, if_neg Bool.false_ne_true] at hlong
        omega
  rw [hcrlf, if_pos rfl] at hlong
  -- a field as long would exceed the limit with its group
  have hcomment : isComment (encodeUtf8 line.text) = true := by
    by_contra hfield
    rw [isComment_encodeUtf8] at hfield
    have hmem : encodeUtf8 line.text ∈ event.fields.map encodeUtf8 := by
      refine List.mem_map_of_mem (List.mem_append_left _ (List.mem_filter.mpr ⟨?_, ?_⟩))
      · exact List.mem_map_of_mem hline
      · rw [bne, (Bool.not_eq_true _).mp hfield]
        rfl
    have hlength := length_le_groupBytes hmem
    omega
  obtain ⟨first, last, hothers⟩ := List.append_of_mem hline
  have hstream : event.stream = first.flatMap SentLine.bytes ++ encodeUtf8 line.text ++
      [carriageReturn, newline] ++ (last ++ event.lines.drop event.others.length).flatMap
        SentLine.bytes := by
    have hlines : event.lines =
        first ++ line :: (last ++ event.lines.drop event.others.length) := by
      unfold DataEvent.lines
      rw [List.drop_left, hothers]
      simp
    have hbytes : line.bytes = encodeUtf8 line.text ++ [carriageReturn, newline] := by
      unfold SentLine.bytes SentLine.raw
      rw [hcrlf]
      simp
    unfold DataEvent.stream
    conv_lhs => rw [hlines]
    rw [List.flatMap_append, List.flatMap_cons, hbytes]
    simp
  have hreached : WithinLimits maxSseEventBytes (textLines (first.flatMap SentLine.bytes)) := by
    rw [hstream, List.append_assoc, List.append_assoc, textLines_append] at hwithin
    exact withinLimits_of_append (by omega) hwithin
  have hexact : ExactComment maxSseEventBytes event.stream (first.flatMap SentLine.bytes)
      (encodeUtf8 line.text) ((last ++ event.lines.drop event.others.length).flatMap
        SentLine.bytes) :=
    ⟨hstream, complete_flatMap first,
      not_mem_encodeUtf8 (c := '\n') (by decide) line.oneLine.1, hcomment, by omega, hreached⟩
  obtain ⟨chunks, hchunks, houtcome⟩ := hexact.outcome hmax
  have hraised := h chunks hchunks
  rw [houtcome] at hraised
  cases hraised

/-! ## The pieces of a line -/

/-- What `str.splitlines` makes of a line without line feeds and carriage returns. -/
def pieces (line : List Char) : List (List Char) :=
  line.splitOnP isLineBreak

/-- The first of them. -/
def firstPiece (line : List Char) : List Char :=
  line.takeWhile fun c => !isLineBreak c

/-- `line.startswith("data: ")`. -/
def startsData (piece : List Char) : Bool :=
  startsWith piece "data: ".toList

theorem pieces_eq_cons (line : List Char) :
    pieces line = firstPiece line :: (pieces line).tail := by
  unfold pieces firstPiece
  induction line with
  | nil => rfl
  | cons c line ih =>
      rw [List.splitOnP_cons_eq_if_modifyHead]
      cases hbreak : isLineBreak c with
      | true => simp [hbreak]
      | false =>
          rw [if_neg Bool.false_ne_true, ih]
          simp [hbreak]

/-- Searching the lines of an event is searching the pieces of its fields. -/
theorem find?_splitOnP_joinLines {p : List Char → Bool} (hp : p [] = false)
    (texts : List (List Char)) :
    ((joinLines texts ++ ['\n', '\n']).splitOnP isLineBreak).find? p =
      (texts.flatMap pieces).find? p := by
  have hbreak : isLineBreak '\n' = true := rfl
  have hend : (['\n'].splitOnP isLineBreak).find? p = none := by
    have hpieces : ['\n'].splitOnP isLineBreak = [[], []] := rfl
    rw [hpieces]
    simp [hp]
  unfold joinLines
  induction texts with
  | nil =>
      have hpieces : ['\n', '\n'].splitOnP isLineBreak = [[], [], []] := rfl
      rw [List.intercalate_nil, List.nil_append, hpieces]
      simp [hp]
  | cons text texts ih =>
      rw [List.flatMap_cons, List.find?_append]
      cases texts with
      | nil =>
          rw [List.intercalate_singleton, List.splitOnP_append_cons text ['\n'] hbreak,
            List.find?_append, hend]
          rfl
      | cons next texts =>
          rw [List.intercalate_cons_cons, List.append_assoc, List.append_assoc,
            List.singleton_append, List.splitOnP_append_cons text _ hbreak, List.find?_append, ih]
          rfl

theorem not_mem_joinLines {texts : List (List Char)} {c : Char} (hc : c ≠ '\n')
    (h : ∀ text ∈ texts, c ∉ text) : c ∉ joinLines texts := by
  unfold joinLines
  induction texts with
  | nil =>
      rw [List.intercalate_nil]
      exact List.not_mem_nil
  | cons text texts ih =>
      rw [List.forall_mem_cons] at h
      cases texts with
      | nil =>
          rw [List.intercalate_singleton]
          exact h.1
      | cons next texts =>
          rw [List.intercalate_cons_cons, List.mem_append, List.mem_append, not_or, not_or]
          exact ⟨⟨h.1, fun hmem => hc (List.mem_singleton.mp hmem)⟩, ih h.2⟩

/-- The lines of an emitted event that start with `data: ` are pieces of its fields. -/
theorem find?_eventLines {texts : List (List Char)} (h : ∀ text ∈ texts, '\r' ∉ text) :
    (eventLines (encodeLines texts)).find? startsData =
      (texts.flatMap pieces).find? startsData := by
  have hreturn : '\r' ∉ joinLines texts ++ ['\n', '\n'] := by
    rw [List.mem_append, not_or]
    exact ⟨not_mem_joinLines (by decide) h, by decide⟩
  unfold eventLines encodeLines
  rw [decodeIgnore_encodeUtf8, find?_splitlines rfl hreturn]
  exact find?_splitOnP_joinLines rfl texts

theorem startsData_eq_true {piece : List Char} (h : startsData piece = true) :
    ∃ rest, piece = "data: ".toList ++ rest := by
  obtain ⟨rest, hrest⟩ := List.isPrefixOf_iff_prefix.mp h
  exact ⟨rest, hrest.symm⟩

/-- A field of another name is no data field up to its first line break. -/
theorem startsData_firstPiece {line : List Char} (h : fieldName line ≠ "data".toList) :
    startsData (firstPiece line) = false := by
  rw [← Bool.not_eq_true]
  intro hstarts
  obtain ⟨rest, hrest⟩ := startsData_eq_true hstarts
  obtain ⟨more, hmore⟩ := List.takeWhile_prefix (l := line) fun c => !isLineBreak c
  change firstPiece line ++ more = line at hmore
  apply h
  rw [← hmore, hrest]
  rfl

theorem find?_flatMap_pieces {texts : List (List Char)}
    (h : ∀ text ∈ texts, startsData (firstPiece text) = false) :
    (texts.flatMap pieces).find? startsData =
      (texts.flatMap fun text => (pieces text).tail).find? startsData := by
  induction texts with
  | nil => rfl
  | cons text texts ih =>
      rw [List.forall_mem_cons] at h
      rw [List.flatMap_cons, List.flatMap_cons, List.find?_append, List.find?_append, ih h.2,
        pieces_eq_cons text, List.find?_cons, h.1]
      rfl

/-! ## The data field -/

/-- Blanks around a text are stripped. -/
theorem strip_append_append {first text last : List Char} (hfirst : ∀ c ∈ first, isSpace c = true)
    (hlast : ∀ c ∈ last, isSpace c = true) (hhead : ∃ c, text.head? = some c ∧ isSpace c = false)
    (hend : ∃ c, text.getLast? = some c ∧ isSpace c = false) :
    strip (first ++ text ++ last) = text := by
  obtain ⟨c, hc, hspace⟩ := hhead
  obtain ⟨d, hd, hspace'⟩ := hend
  have hleft : (first ++ text ++ last).dropWhile isSpace = text ++ last := by
    rw [List.append_assoc, List.dropWhile_append_of_pos hfirst]
    cases text with
    | nil => cases hc
    | cons e text =>
        obtain rfl := Option.some.inj hc
        exact List.dropWhile_cons_of_neg (by simp [hspace])
  have hright : (text ++ last).reverse.dropWhile isSpace = text.reverse := by
    rw [List.reverse_append, List.dropWhile_append_of_pos fun e he =>
      hlast e (List.mem_reverse.mp he)]
    rw [List.getLast?_eq_head?_reverse] at hd
    cases hreverse : text.reverse with
    | nil =>
        rw [hreverse] at hd
        cases hd
    | cons e rest =>
        rw [hreverse] at hd
        obtain rfl := Option.some.inj hd
        exact List.dropWhile_cons_of_neg (by simp [hspace'])
  unfold strip stripOf
  rw [hleft, hright, List.reverse_reverse]

/-- A text that is cut off keeps its front when it is stripped. -/
theorem exists_strip_append {first text : List Char} (hfirst : ∀ c ∈ first, isSpace c = true)
    (hhead : ∃ c, text.head? = some c ∧ isSpace c = false) :
    ∃ last, text = strip (first ++ text) ++ last ∧
      (strip (first ++ text)).head? = text.head? := by
  obtain ⟨c, hc, hspace⟩ := hhead
  have hleft : (first ++ text).dropWhile isSpace = text := by
    rw [List.dropWhile_append_of_pos hfirst]
    cases text with
    | nil => cases hc
    | cons e text =>
        obtain rfl := Option.some.inj hc
        exact List.dropWhile_cons_of_neg (by simp [hspace])
  have hstrip : strip (first ++ text) = (text.reverse.dropWhile isSpace).reverse := by
    unfold strip stripOf
    rw [hleft]
  have hsplit : text = (text.reverse.dropWhile isSpace).reverse ++
      (text.reverse.takeWhile isSpace).reverse := by
    rw [← List.reverse_append, List.takeWhile_append_dropWhile, List.reverse_reverse]
  rw [hstrip]
  refine ⟨_, hsplit, ?_⟩
  have hne : (text.reverse.dropWhile isSpace).reverse ≠ [] := by
    intro hnil
    rw [List.reverse_eq_nil_iff, List.dropWhile_eq_nil_iff] at hnil
    have hmem : c ∈ text.reverse := List.mem_reverse.mpr (List.mem_of_mem_head? hc)
    rw [hnil c hmem] at hspace
    cases hspace
  conv_rhs => rw [hsplit]
  cases hq : (text.reverse.dropWhile isSpace).reverse with
  | nil => exact absurd hq hne
  | cons e rest => rfl

/-- A line break inside an object is no whitespace of the JSON grammar. -/
theorem isJsonSpace_of_isLineBreak {c : Char} (h : isLineBreak c = true) (hnewline : c ≠ '\n')
    (hreturn : c ≠ '\r') : isJsonSpace c = false := by
  rw [← Bool.not_eq_true]
  intro hspace
  simp only [isJsonSpace, Bool.or_eq_true, beq_iff_eq] at hspace
  rcases hspace with ((rfl | rfl) | rfl) | rfl
  · cases h
  · cases h
  · exact hnewline rfl
  · exact hreturn rfl

variable {F : Type} [Runtime F]

variable (F) in
/-- A serialisation of an object from its opening to its closing brace: `json.loads` calls a
document that is not valid a `JSONDecodeError`. -/
structure ObjectText (text : List Char) : Prop where
  opens : text.head? = some '\x7b'
  closes : text.getLast? = some '\x7d'
  valid : ∀ message, loads (F := F) text ≠ .error (.jsonDecodeError message)

/-- What is left of an object at a line break is no document. -/
theorem ObjectText.loads_cut {text : List Char} (h : ObjectText F text)
    (hline : '\n' ∉ text ∧ '\r' ∉ text) (hbreak : ∃ c ∈ text, isLineBreak c = true)
    {first : List Char} (hfirst : ∀ c ∈ first, isSpace c = true) (v : PyValue F) :
    loads (strip (first ++ firstPiece text)) ≠ .ok v := by
  intro hloads
  have hopens : (firstPiece text).head? = some '\x7b' := by
    unfold firstPiece
    rw [List.head?_takeWhile, h.opens]
    rfl
  obtain ⟨last, hlast, hhead⟩ := exists_strip_append hfirst ⟨'\x7b', hopens, rfl⟩
  obtain ⟨c, after, hafter⟩ : ∃ c after, text.dropWhile (fun c => !isLineBreak c) =
      c :: after := by
    cases hrest : text.dropWhile fun c => !isLineBreak c with
    | nil =>
        rw [List.dropWhile_eq_nil_iff] at hrest
        obtain ⟨c, hc, hcbreak⟩ := hbreak
        have hnone := hrest c hc
        rw [hcbreak] at hnone
        cases hnone
    | cons c after => exact ⟨c, after, rfl⟩
  have htext : text = firstPiece text ++ c :: after := by
    rw [← hafter]
    exact (List.takeWhile_append_dropWhile (l := text)).symm
  have hc : isLineBreak c = true := by
    have hnot := List.head?_dropWhile_not (fun c => !isLineBreak c) text
    rw [hafter] at hnot
    simpa using hnot
  have hmem : c ∈ text := by
    rw [htext]
    simp
  have hspace : isJsonSpace c = false := by
    refine isJsonSpace_of_isLineBreak hc ?_ ?_
    · rintro rfl
      exact hline.1 hmem
    · rintro rfl
      exact hline.2 hmem
  have hmore : skipSpace (last ++ c :: after) ≠ [] := by
    unfold skipSpace
    rw [Ne, List.dropWhile_eq_nil_iff]
    intro hall
    have hnone := hall c (by simp)
    rw [hspace] at hnone
    cases hnone
  have hwhole : text = strip (first ++ firstPiece text) ++ (last ++ c :: after) := by
    conv_lhs => rw [htext, hlast]
    exact List.append_assoc _ _ _
  have hextra := loads_append_of_ok (hhead.trans hopens) hloads hmore
  rw [← hwhole] at hextra
  exact h.valid _ hextra

/-! ## What is read -/

/-- The first piece of another field, behind one of its line breaks, that starts with
`data: `. -/
def DataEvent.strayPiece (event : DataEvent) : Option (List Char) :=
  (event.otherTexts.flatMap fun text => (pieces text).tail).find? startsData

/-- The data field is what is read, and it is read to its end: no piece of another field comes
before it, a space follows its colon, and nothing in it breaks a line. -/
structure DataEvent.Plain (event : DataEvent) : Prop where
  noStray : event.strayPiece = none
  spaced : event.left.head? = some ' '
  noBreak : ∀ c ∈ event.text, isLineBreak c = false

/-- A piece behind a line break is read in the place of the data field. -/
def DataEvent.ReadInstead (event : DataEvent) (piece : List Char) : Prop :=
  event.strayPiece = some piece ∨
    event.strayPiece = none ∧ event.left.head? ≠ some ' ' ∧
      (pieces event.dataText).tail.find? startsData = some piece

/-- The line of the emitted event that is read. -/
def DataEvent.selected (event : DataEvent) : Option (List Char) :=
  (eventLines (encodeLines event.fields)).find? startsData

theorem DataEvent.return_not_mem_fields (event : DataEvent) :
    ∀ text ∈ event.fields, '\r' ∉ text := by
  intro text htext
  unfold DataEvent.fields at htext
  rw [List.mem_append, List.mem_singleton] at htext
  rcases htext with hother | rfl
  · obtain ⟨line, -, rfl⟩ := List.mem_map.mp (List.mem_filter.mp hother).1
    exact line.oneLine.2
  · exact event.oneLine_dataText.2

/-- What is read is a piece of another field, if any, or a piece of the data field. -/
theorem DataEvent.selected_eq (event : DataEvent) :
    event.selected = event.strayPiece.or ((pieces event.dataText).find? startsData) := by
  have hothers : ∀ text ∈ event.otherTexts, startsData (firstPiece text) = false := by
    intro text htext
    obtain ⟨line, hline, rfl⟩ := List.mem_map.mp (List.mem_filter.mp htext).1
    exact startsData_firstPiece (event.otherFields line hline).2
  unfold DataEvent.selected DataEvent.strayPiece
  rw [find?_eventLines event.return_not_mem_fields]
  unfold DataEvent.fields
  rw [List.flatMap_append, List.find?_append, find?_flatMap_pieces hothers]
  simp

theorem DataEvent.isSpace_of_mem_left (event : DataEvent) :
    ∀ c ∈ event.left, isSpace c = true := by
  intro c hc
  rcases event.blanks c (List.mem_append_left _ hc) with rfl | rfl <;> rfl

theorem DataEvent.isSpace_of_mem_right (event : DataEvent) :
    ∀ c ∈ event.right, isSpace c = true := by
  intro c hc
  rcases event.blanks c (List.mem_append_right _ hc) with rfl | rfl <;> rfl

theorem DataEvent.not_break_of_blank (event : DataEvent) :
    ∀ c ∈ event.left ++ event.right, isLineBreak c = false := by
  intro c hc
  rcases event.blanks c hc with rfl | rfl <;> rfl

/-- The data field up to its first line break. -/
theorem DataEvent.firstPiece_dataText (event : DataEvent) :
    firstPiece event.dataText =
      "data:".toList ++ event.left ++ firstPiece (event.text ++ event.right) := by
  unfold DataEvent.dataText firstPiece
  rw [List.append_assoc, List.takeWhile_append_of_pos]
  intro c hc
  rw [List.mem_append] at hc
  rcases hc with hname | hleft
  · have hplain : ∀ c ∈ "data:".toList, isLineBreak c = false :=
      forall_mem_of_all (by decide +kernel)
    rw [hplain c hname]
    rfl
  · rw [event.not_break_of_blank c (List.mem_append_left _ hleft)]
    rfl

/-- The data field is taken for one exactly when a space follows its colon. -/
theorem DataEvent.startsData_dataText (event : DataEvent)
    (hhead : ∃ c, event.text.head? = some c ∧ isSpace c = false ∧ isLineBreak c = false) :
    startsData (firstPiece event.dataText) = (event.left.head? == some ' ') := by
  obtain ⟨c, hc, hspace, hbreak⟩ := hhead
  rw [event.firstPiece_dataText]
  cases hleft : event.left with
  | cons d left =>
      rw [List.head?_cons, Bool.eq_iff_iff]
      simp only [startsData, startsWith, List.cons_append, List.append_assoc]
      simp [List.isPrefixOf]
      exact eq_comm
  | nil =>
      cases htext : event.text with
      | nil =>
          rw [htext] at hc
          cases hc
      | cons d text =>
          rw [htext] at hc
          obtain rfl := Option.some.inj hc
          have hne : ' ' ≠ d := by
            rintro rfl
            cases hspace
          simp [startsData, startsWith, firstPiece, List.isPrefixOf, hbreak, hne]

/-- Where a piece is read in the place of the data field, it is the one. -/
theorem DataEvent.ReadInstead.selected_eq {event : DataEvent} {piece : List Char}
    (hhead : ∃ c, event.text.head? = some c ∧ isSpace c = false ∧ isLineBreak c = false)
    (h : event.ReadInstead piece) : event.selected = some piece := by
  rw [event.selected_eq]
  rcases h with hstray | ⟨hstray, hspace, hpiece⟩
  · rw [hstray]
    rfl
  · have hfirst : startsData (firstPiece event.dataText) = false := by
      rw [event.startsData_dataText hhead]
      simpa using hspace
    rw [hstray, Option.none_or, pieces_eq_cons, List.find?_cons, hfirst]
    exact hpiece

/-- Where none is, the data field is read up to its first line break, if a space follows its
colon, and nothing otherwise. -/
theorem DataEvent.selected_of_not_readInstead {event : DataEvent}
    (hhead : ∃ c, event.text.head? = some c ∧ isSpace c = false ∧ isLineBreak c = false)
    (h : ∀ piece, ¬ event.ReadInstead piece) :
    event.strayPiece = none ∧
      event.selected =
        if event.left.head? = some ' ' then some (firstPiece event.dataText) else none := by
  have hstray : event.strayPiece = none :=
    Option.eq_none_iff_forall_not_mem.mpr fun piece hpiece => h piece (.inl hpiece)
  refine ⟨hstray, ?_⟩
  rw [event.selected_eq, hstray, Option.none_or, pieces_eq_cons, List.find?_cons,
    event.startsData_dataText hhead]
  by_cases hspace : event.left.head? = some ' '
  · rw [if_pos hspace, hspace]
    rfl
  · rw [if_neg hspace, beq_eq_false_iff_ne.mpr hspace]
    exact Option.eq_none_iff_forall_not_mem.mpr fun piece hpiece =>
      h piece (.inr ⟨hstray, hspace, hpiece⟩)

/-- What stands behind `data: ` in the first piece of a data field with a space. -/
theorem DataEvent.drop_firstPiece (event : DataEvent) (hspace : event.left.head? = some ' ') :
    (firstPiece event.dataText).drop 6 =
      event.left.tail ++ firstPiece (event.text ++ event.right) := by
  rw [event.firstPiece_dataText]
  cases hleft : event.left with
  | nil =>
      rw [hleft] at hspace
      cases hspace
  | cons c left => rfl

/-- A text without line breaks is read to its end. -/
theorem DataEvent.strip_plain (event : DataEvent) (hspace : event.left.head? = some ' ')
    (hbreak : ∀ c ∈ event.text, isLineBreak c = false)
    (hhead : ∃ c, event.text.head? = some c ∧ isSpace c = false)
    (hend : ∃ c, event.text.getLast? = some c ∧ isSpace c = false) :
    strip ((firstPiece event.dataText).drop 6) = event.text := by
  have hwhole : firstPiece (event.text ++ event.right) = event.text ++ event.right := by
    unfold firstPiece
    rw [List.takeWhile_eq_self_iff]
    intro c hc
    rw [Bool.not_eq_true']
    rcases List.mem_append.mp hc with htext | hright
    · exact hbreak c htext
    · exact event.not_break_of_blank c (List.mem_append_right _ hright)
  rw [event.drop_firstPiece hspace, hwhole, ← List.append_assoc]
  exact strip_append_append
    (fun c hc => event.isSpace_of_mem_left c (List.mem_of_mem_tail hc))
    event.isSpace_of_mem_right hhead hend

/-- A line break in the text cuts it. -/
theorem firstPiece_append {text : List Char} (h : ∃ c ∈ text, isLineBreak c = true)
    (more : List Char) : firstPiece (text ++ more) = firstPiece text := by
  obtain ⟨c, hc, hbreak⟩ := h
  unfold firstPiece
  rw [List.takeWhile_append, if_neg]
  intro hlength
  have hself : text.takeWhile (fun c => !isLineBreak c) = text :=
    (List.takeWhile_prefix _).eq_of_length hlength
  rw [List.takeWhile_eq_self_iff] at hself
  have hnone := hself c hc
  rw [hbreak] at hnone
  cases hnone

/-! ## What the parser makes of it -/

/-- Without a line to read the parser returns nothing. -/
theorem parseStreamEvent_of_none {rawEvent : List UInt8}
    (h : (eventLines rawEvent).find? startsData = none) :
    parseStreamEvent (F := F) rawEvent = .ok (.none, false) := by
  unfold startsData at h
  simp only [parseStreamEvent, h]

/-- The end marker is no object. -/
theorem loads_doneMarker_ne (v : PyValue F) : loads "[DONE]".toList ≠ .ok v := by
  intro hloads
  unfold loads at hloads
  cases hlimit : Runtime.recursionLimit F with
  | zero =>
      rw [hlimit] at hloads
      cases hloads
  | succ depth =>
      rw [hlimit] at hloads
      cases hloads

/-- The line is read as an object exactly when what stands behind `data: ` is one. -/
theorem parseStreamEvent_dict_iff {rawEvent : List UInt8} {line : List Char}
    (h : (eventLines rawEvent).find? startsData = some line)
    (members : List (String × PyValue F)) :
    parseStreamEvent rawEvent = .ok (.dict members, false) ↔
      loads (strip (line.drop 6)) = .ok (.dict members) := by
  unfold startsData at h
  simp only [parseStreamEvent, h]
  by_cases hdone : strip (line.drop 6) = "[DONE]".toList
  · rw [if_pos hdone, hdone]
    refine iff_of_false ?_ (loads_doneMarker_ne _)
    intro heq
    cases heq
  · rw [if_neg hdone]
    split
    · rename_i v hloads
      rw [hloads, Except.ok.injEq, Except.ok.injEq, Prod.mk.injEq]
      exact and_iff_left rfl
    · rename_i message hloads
      rw [hloads]
      refine iff_of_false ?_ ?_
      · intro heq
        cases heq
      · intro heq
        cases heq
    · rename_i exc _ hloads
      rw [hloads]
      refine iff_of_false ?_ ?_
      · intro heq
        cases heq
      · intro heq
        cases heq

/-- The line is read as the end exactly when what stands behind `data: ` is the marker. -/
theorem parseStreamEvent_done_iff {rawEvent : List UInt8} {line : List Char}
    (h : (eventLines rawEvent).find? startsData = some line) :
    parseStreamEvent (F := F) rawEvent = .ok (.none, true) ↔
      strip (line.drop 6) = "[DONE]".toList := by
  unfold startsData at h
  simp only [parseStreamEvent, h]
  by_cases hdone : strip (line.drop 6) = "[DONE]".toList
  · rw [if_pos hdone]
    exact iff_of_true rfl hdone
  · rw [if_neg hdone]
    refine iff_of_false ?_ hdone
    split
    · intro heq
      cases heq
    · intro heq
      cases heq
    · intro heq
      cases heq

/-- However the bytes of the event are cut into chunks, the adapter emits one event, the
parser reads it as `payload` and `done`, and the relay analyses it as such. -/
def DataEvent.Yields (event : DataEvent) (maxSseEventBytes : Int) (payload : PyValue F)
    (done : Bool) : Prop :=
  ∀ chunks : List (List UInt8), chunks.flatten = event.stream →
    ∃ rawEvent, eventStream maxSseEventBytes chunks = ⟨[rawEvent], none⟩ ∧
      parseStreamEvent rawEvent = .ok (payload, done) ∧
      ∀ ctx st, observe ctx rawEvent st =
        (recordUsage payload { st with doneSeen := st.doneSeen || done }).bind
          (recordError ctx payload)

theorem DataEvent.yields_iff {event : DataEvent} {maxSseEventBytes : Int}
    (hmax : 1 ≤ maxSseEventBytes) (payload : PyValue F) (done : Bool) :
    event.Yields maxSseEventBytes payload done ↔
      event.Fits maxSseEventBytes ∧
        parseStreamEvent (encodeLines event.fields) = .ok (payload, done) := by
  constructor
  · intro hyields
    have hfits : event.Fits maxSseEventBytes := by
      refine event.fits_of_emitted hmax fun chunks hchunks => ?_
      obtain ⟨rawEvent, hevents, -⟩ := hyields chunks hchunks
      rw [hevents]
    refine ⟨hfits, ?_⟩
    have hone : [event.stream].flatten = event.stream := by simp
    obtain ⟨rawEvent, hevents, hparse, -⟩ := hyields _ hone
    rw [hfits.eventStream hmax hone] at hevents
    have hraw := (List.cons.inj (congrArg StreamOutcome.events hevents)).1
    rw [hraw]
    exact hparse
  · rintro ⟨hfits, hparse⟩ chunks hchunks
    refine ⟨_, hfits.eventStream hmax hchunks, hparse, ?_⟩
    intro ctx st
    unfold observe
    rw [hparse]
    rfl

/-- The text of an object, or the end marker: it does not begin or end with whitespace. -/
theorem DataEvent.selected_read {event : DataEvent}
    (hhead : ∃ c, event.text.head? = some c ∧ isSpace c = false ∧ isLineBreak c = false)
    (hend : ∃ c, event.text.getLast? = some c ∧ isSpace c = false)
    (Reads : List Char → Prop) (htext : Reads event.text)
    (hcut : (∃ c ∈ event.text, isLineBreak c = true) →
      ¬ Reads (strip (event.left.tail ++ firstPiece event.text))) :
    (∃ line, event.selected = some line ∧ Reads (strip (line.drop 6))) ↔
      event.Plain ∨ ∃ piece, event.ReadInstead piece ∧ Reads (strip (piece.drop 6)) := by
  have hhead' : ∃ c, event.text.head? = some c ∧ isSpace c = false := by
    obtain ⟨c, hc, hspace, -⟩ := hhead
    exact ⟨c, hc, hspace⟩
  by_cases hinstead : ∃ piece, event.ReadInstead piece
  · obtain ⟨piece, hpiece⟩ := hinstead
    rw [hpiece.selected_eq hhead]
    constructor
    · rintro ⟨line, hline, hreads⟩
      obtain rfl := Option.some.inj hline
      exact .inr ⟨piece, hpiece, hreads⟩
    · rintro (hplain | ⟨other, hother, hreads⟩)
      · rcases hpiece with hstray | ⟨-, hspace, -⟩
        · rw [hplain.noStray] at hstray
          cases hstray
        · exact absurd hplain.spaced hspace
      · have hsame := hother.selected_eq hhead
        rw [hpiece.selected_eq hhead] at hsame
        exact ⟨other, hsame, hreads⟩
  · rw [not_exists] at hinstead
    obtain ⟨hstray, hselected⟩ := DataEvent.selected_of_not_readInstead hhead hinstead
    rw [hselected]
    constructor
    · rintro ⟨line, hline, hreads⟩
      by_cases hspace : event.left.head? = some ' '
      · rw [if_pos hspace] at hline
        obtain rfl := Option.some.inj hline
        refine .inl ⟨hstray, hspace, ?_⟩
        -- a line break would cut the text
        by_contra hbreak
        have hsome : ∃ c ∈ event.text, isLineBreak c = true := by
          simpa only [not_forall, Bool.not_eq_false, exists_prop] using hbreak
        rw [event.drop_firstPiece hspace, firstPiece_append hsome] at hreads
        exact hcut hsome hreads
      · rw [if_neg hspace] at hline
        cases hline
    · rintro (hplain | ⟨piece, hpiece, -⟩)
      · refine ⟨_, if_pos hplain.spaced, ?_⟩
        rw [event.strip_plain hplain.spaced hplain.noBreak hhead' hend]
        exact htext
      · exact absurd hpiece (hinstead piece)

variable (F) in
/-- An object in a data field is what the parser yields, however the event is cut into chunks,
exactly when the event fits into the limits, the interpreter can read the object, and either
the data field is read to its end or a piece that is read in its place holds the same object.
So it is with the end marker. -/
theorem data_event_iff {maxSseEventBytes : Int} (hmax : 1 ≤ maxSseEventBytes)
    (event : DataEvent) :
    (ObjectText F event.text →
      ((∃ members, loads (F := F) event.text = .ok (.dict members) ∧
          event.Yields maxSseEventBytes (.dict members) false) ↔
        event.Fits maxSseEventBytes ∧
          ∃ members, loads (F := F) event.text = .ok (.dict members) ∧
            (event.Plain ∨ ∃ piece, event.ReadInstead piece ∧
              loads (strip (piece.drop 6)) = .ok (.dict members)))) ∧
      (event.text = "[DONE]".toList →
        (event.Yields (F := F) maxSseEventBytes .none true ↔
          event.Fits maxSseEventBytes ∧
            (event.Plain ∨ ∃ piece, event.ReadInstead piece ∧
              strip (piece.drop 6) = "[DONE]".toList))) := by
  refine ⟨?_, ?_⟩
  · intro hobject
    have hhead : ∃ c, event.text.head? = some c ∧ isSpace c = false ∧ isLineBreak c = false :=
      ⟨_, hobject.opens, rfl, rfl⟩
    have hend : ∃ c, event.text.getLast? = some c ∧ isSpace c = false :=
      ⟨_, hobject.closes, rfl⟩
    have hread : ∀ members : List (String × PyValue F),
        loads event.text = .ok (.dict members) →
          (event.Yields maxSseEventBytes (.dict members) false ↔
            event.Fits maxSseEventBytes ∧
              (event.Plain ∨ ∃ piece, event.ReadInstead piece ∧
                loads (strip (piece.drop 6)) = .ok (.dict members))) := by
      intro members hloads
      rw [DataEvent.yields_iff hmax, ← DataEvent.selected_read hhead hend
        (fun data => loads data = .ok (.dict members)) hloads fun hbreak =>
          hobject.loads_cut event.oneLine hbreak
            (fun c hc => event.isSpace_of_mem_left c (List.mem_of_mem_tail hc)) _]
      refine and_congr_right fun _ => ?_
      constructor
      · intro hparse
        cases hselected : event.selected with
        | none =>
            rw [parseStreamEvent_of_none hselected] at hparse
            cases hparse
        | some line => exact ⟨line, rfl, (parseStreamEvent_dict_iff hselected members).mp hparse⟩
      · rintro ⟨line, hselected, hreads⟩
        exact (parseStreamEvent_dict_iff hselected members).mpr hreads
    constructor
    · rintro ⟨members, hloads, hyields⟩
      obtain ⟨hfits, hread⟩ := (hread members hloads).mp hyields
      exact ⟨hfits, members, hloads, hread⟩
    · rintro ⟨hfits, members, hloads, hcases⟩
      exact ⟨members, hloads, (hread members hloads).mpr ⟨hfits, hcases⟩⟩
  · intro hdone
    have hnoBreak : ∀ c ∈ event.text, isLineBreak c = false := by
      rw [hdone]
      exact forall_mem_of_all (by decide +kernel)
    rw [DataEvent.yields_iff hmax, ← DataEvent.selected_read
      ⟨'[', by rw [hdone]; rfl, rfl, rfl⟩ ⟨']', by rw [hdone]; rfl, rfl⟩
      (fun data => data = "[DONE]".toList) hdone]
    · refine and_congr_right fun _ => ?_
      constructor
      · intro hparse
        cases hselected : event.selected with
        | none =>
            rw [parseStreamEvent_of_none hselected] at hparse
            cases hparse
        | some line => exact ⟨line, rfl, (parseStreamEvent_done_iff hselected).mp hparse⟩
      · rintro ⟨line, hselected, hreads⟩
        exact (parseStreamEvent_done_iff hselected).mpr hreads
    · rintro ⟨c, hc, hbreak⟩
      rw [hnoBreak c hc] at hbreak
      cases hbreak

/-! ## Events that are read and events that are missed -/

/-- `isinstance(json.loads(text), dict)`. -/
def readsObject : Except Exc (PyValue F) → Bool
  | .ok (.dict _) => true
  | _ => false

omit [Runtime F] in
theorem exists_of_readsObject {outcome : Except Exc (PyValue F)} (h : readsObject outcome = true) :
    ∃ members, outcome = .ok (.dict members) := by
  unfold readsObject at h
  split at h
  · rename_i members
    exact ⟨members, rfl⟩
  · cases h

/-- A text between braces that is read as an object is the serialisation of one. -/
theorem objectText_of_readsObject {text : List Char} (hopens : text.head? = some '\x7b')
    (hcloses : text.getLast? = some '\x7d') (h : readsObject (loads (F := F) text) = true) :
    ObjectText F text := by
  obtain ⟨members, hmembers⟩ := exists_of_readsObject h
  refine ⟨hopens, hcloses, ?_⟩
  intro message herror
  rw [hmembers] at herror
  cases herror

/-- An event with nothing but its data field. -/
def lonelyEvent (left text : List Char) (hleft : ∀ c ∈ left ++ [], c = ' ' ∨ c = '\t')
    (htext : '\n' ∉ text ∧ '\r' ∉ text) : DataEvent where
  others := []
  otherFields := fun _ h => absurd h List.not_mem_nil
  left := left
  text := text
  right := []
  blanks := hleft
  oneLine := htext
  dataCrlf := false
  endCrlf := false

/-- A usage object behind a field and a comment. -/
def usageEvent : DataEvent where
  others := [⟨"event: usage".toList, true, by decide⟩, ⟨": last one".toList, false, by decide⟩]
  otherFields := by decide
  left := [' ']
  text := "\x7b\"usage\":\x7b\"total_tokens\":3\x7d\x7d".toList
  right := ['\t']
  blanks := forall_mem_of_all (by decide +kernel)
  oneLine := by decide +kernel
  dataCrlf := true
  endCrlf := true

/-- The usage object and the end marker are yielded, in whatever chunks they arrive. -/
theorem usage_event_yielded :
    (∃ members, loads (F := Exact) usageEvent.text = .ok (.dict members) ∧
        usageEvent.Yields 1024 (.dict members) false) ∧
      (lonelyEvent [' '] "[DONE]".toList (forall_mem_of_all (by decide +kernel))
        (by decide +kernel)).Yields (F := Exact) 1024 .none true := by
  refine ⟨?_, ?_⟩
  · have hreads : readsObject (loads (F := Exact) usageEvent.text) = true := by
      decide +kernel
    obtain ⟨members, hmembers⟩ := exists_of_readsObject hreads
    exact ((data_event_iff Exact (by decide : (1 : Int) ≤ 1024) usageEvent).1
      (objectText_of_readsObject rfl rfl hreads)).mpr
        ⟨⟨by decide +kernel, by decide +kernel⟩, members, hmembers,
          .inl ⟨by decide +kernel, rfl, forall_mem_of_all (by decide +kernel)⟩⟩
  · exact ((data_event_iff Exact (by decide : (1 : Int) ≤ 1024) _).2 rfl).mpr
      ⟨⟨by decide +kernel, by decide +kernel⟩,
        .inl ⟨by decide +kernel, rfl, forall_mem_of_all (by decide +kernel)⟩⟩

/-- An object without a space after the colon. -/
def unspacedEvent : DataEvent :=
  lonelyEvent [] "\x7b\"a\":1\x7d".toList (forall_mem_of_all (by decide +kernel))
    (by decide +kernel)

/-- An object with a line separator in one of its strings. -/
def cutEvent : DataEvent :=
  lonelyEvent [' '] "\x7b\"a\":\"b\u2028c\"\x7d".toList (forall_mem_of_all (by decide +kernel))
    (by decide +kernel)

/-- Both objects are missed although the events fit. -/
theorem objects_missed :
    (ObjectText Exact unspacedEvent.text ∧ unspacedEvent.Fits 1024 ∧
        ¬ ∃ members, loads (F := Exact) unspacedEvent.text = .ok (.dict members) ∧
          unspacedEvent.Yields 1024 (.dict members) false) ∧
      ObjectText Exact cutEvent.text ∧ cutEvent.Fits 1024 ∧
        ¬ ∃ members, loads (F := Exact) cutEvent.text = .ok (.dict members) ∧
          cutEvent.Yields 1024 (.dict members) false := by
  refine ⟨⟨objectText_of_readsObject rfl rfl (by decide +kernel), ⟨by decide, by decide⟩, ?_⟩,
    objectText_of_readsObject rfl rfl (by decide +kernel), ⟨by decide, by decide⟩, ?_⟩
  · rintro ⟨members, -, hyields⟩
    have hparse := ((DataEvent.yields_iff (by decide) _ _).mp hyields).2
    have hselected : unspacedEvent.selected = none := by
      decide +kernel
    rw [parseStreamEvent_of_none hselected] at hparse
    cases hparse
  · rintro ⟨members, -, hyields⟩
    have hparse := ((DataEvent.yields_iff (by decide) _ _).mp hyields).2
    have hselected : cutEvent.selected = some "data: \x7b\"a\":\"b".toList := by
      decide +kernel
    have hloads := (parseStreamEvent_dict_iff hselected members).mp hparse
    have hreads : readsObject (loads (F := Exact)
        (strip ("data: \x7b\"a\":\"b".toList.drop 6))) = false := by
      decide +kernel
    rw [hloads] at hreads
    cases hreads

end Gateway
end FreeLunch
