import FreeLunch.Providers.EventChunks

/-!
# The events of a stream

A stream is a list of lines, the last of which may lack its line feed.  Without its comments,
the empty lines separate the groups that are the events.  The adapter reads the lines before
the last newline as such, and takes whatever follows it for one more line of an event.

Main results:

- Theorem `groups_eq_eventGroups`: the grouping is the split at the empty lines.
- Theorem `length_eventOf`: the size of an event.
- Theorem `event_groups_iff`: the streams whose events are their groups.
-/

namespace FreeLunch
namespace Providers

open Gateway Python

/-! ## Groups -/

/-- The maximal groups of consecutive lines that are neither comments nor empty, separated by
empty lines. -/
def eventGroups (lines : List (List UInt8)) : List (List (List UInt8)) :=
  ((lines.filter fun line => !isComment line).splitOnP List.isEmpty).filter fun group =>
    !group.isEmpty

theorem groups_foldl (lines : List (List UInt8)) (grouping : Grouping) :
    (lines.foldl Grouping.add grouping).groups =
      grouping.closed ++
        (List.splitOnPPrepend List.isEmpty (lines.filter fun line => !isComment line)
          grouping.pending.reverse).filter fun group => !group.isEmpty := by
  induction lines generalizing grouping with
  | nil =>
      rw [List.foldl_nil, List.filter_nil, List.splitOnPPrepend_nil, List.reverse_reverse]
      unfold Grouping.groups
      cases hpending : grouping.pending.isEmpty <;> simp [hpending]
  | cons line lines ih =>
      rw [List.foldl_cons, ih]
      unfold Grouping.add
      by_cases hempty : line.isEmpty = true
      · have hcomment : isComment line = false := by
          rw [List.isEmpty_iff.mp hempty]
          rfl
        rw [if_pos hempty, List.filter_cons, hcomment]
        rw [Bool.not_false, if_pos rfl, List.splitOnPPrepend_cons_pos hempty,
          List.reverse_reverse, List.filter_cons]
        by_cases hopen : grouping.pending.isEmpty = true
        · rw [if_pos hopen, hopen, List.isEmpty_iff.mp hopen]
          rfl
        · rw [if_neg hopen]
          rw [Bool.not_eq_true] at hopen
          rw [hopen, Bool.not_false, if_pos rfl, List.append_assoc]
          rfl
      · rw [if_neg hempty, List.filter_cons]
        rw [Bool.not_eq_true] at hempty
        by_cases hcomment : isComment line = true
        · rw [if_pos hcomment, hcomment]
          rfl
        · rw [if_neg hcomment]
          rw [Bool.not_eq_true] at hcomment
          rw [hcomment, Bool.not_false, if_pos rfl, List.splitOnPPrepend_cons_neg hempty]
          dsimp only
          rw [List.reverse_append]
          rfl

/-- The grouping of some lines is their split at the empty lines. -/
theorem groups_eq_eventGroups (lines : List (List UInt8)) :
    (groupingOf lines).groups = eventGroups lines :=
  groups_foldl lines ⟨[], []⟩

/-- A group has a line, and none of its lines is empty or a comment. -/
def IsEvent (group : List (List UInt8)) : Prop :=
  group ≠ [] ∧ ∀ line ∈ group, line ≠ [] ∧ isComment line = false

/-- No event is empty, and none has a comment among its lines. -/
theorem isEvent_of_mem {lines : List (List UInt8)} {group : List (List UInt8)}
    (h : group ∈ eventGroups lines) : IsEvent group := by
  have hall : (∀ closed ∈ (groupingOf lines).closed, IsEvent closed) ∧
      ∀ line ∈ (groupingOf lines).pending, line ≠ [] ∧ isComment line = false := by
    clear h
    induction lines using List.reverseRecOn with
    | nil =>
        constructor
        · intro closed hclosed
          cases hclosed
        · intro line hline
          cases hline
    | append_singleton lines line ih =>
        obtain ⟨hclosed, hpending⟩ := ih
        rw [groupingOf_concat]
        unfold Grouping.add
        split
        · split
          · exact ⟨hclosed, hpending⟩
          · rename_i hopen
            constructor
            · rw [List.forall_mem_append, List.forall_mem_singleton]
              exact ⟨hclosed, fun hnil => hopen (List.isEmpty_iff.mpr hnil), hpending⟩
            · intro other hother
              cases hother
        · split
          · exact ⟨hclosed, hpending⟩
          · rename_i hempty hcomment
            refine ⟨hclosed, ?_⟩
            rw [List.forall_mem_append, List.forall_mem_singleton]
            exact ⟨hpending, fun hnil => hempty (List.isEmpty_iff.mpr hnil),
              (Bool.not_eq_true _).mp hcomment⟩
  rw [← groups_eq_eventGroups, mem_groups] at h
  rcases h with hclosed | ⟨rfl, hne⟩
  · exact hall.1 group hclosed
  · exact ⟨hne, hall.2⟩

/-! ## Sizes -/

/-- The bytes that replacing adds to the lines of a group. -/
def groupGrowth (group : List (List UInt8)) : Nat :=
  (group.map replacementGrowth).sum

theorem length_encodeUtf8_joinLines {lines : List (List Char)} (h : lines ≠ []) :
    (encodeUtf8 (joinLines lines)).length + 1 =
      (lines.map fun line => (encodeUtf8 line).length + 1).sum := by
  have hnewline : (encodeUtf8 ['\n']).length = 1 := rfl
  unfold joinLines
  induction lines with
  | nil => exact absurd rfl h
  | cons line lines ih =>
      cases lines with
      | nil =>
          rw [List.intercalate_singleton]
          rfl
      | cons other lines =>
          have hrest := ih (List.cons_ne_nil _ _)
          rw [List.intercalate_cons_cons, encodeUtf8_append, encodeUtf8_append,
            List.length_append, List.length_append, hnewline, List.map_cons, List.sum_cons]
          omega

/-- An event has the bytes of its group, one more for the blank line at its end, and what
replacing adds. -/
theorem length_eventOf {group : List (List UInt8)} (h : group ≠ []) :
    (eventOf group).length = groupBytes group + groupGrowth group + 1 := by
  have hblank : (encodeUtf8 ['\n', '\n']).length = 2 := rfl
  have hne : group.map decodeReplace ≠ [] := by simpa using h
  have hjoin := length_encodeUtf8_joinLines hne
  have hsum : ((group.map decodeReplace).map fun line => (encodeUtf8 line).length + 1).sum =
      groupBytes group + groupGrowth group := by
    unfold groupBytes groupGrowth
    clear hjoin hne h
    induction group with
    | nil => rfl
    | cons line group ih =>
        rw [List.map_cons, List.map_cons, List.sum_cons, ih, length_encodeUtf8_decodeReplace,
          List.map_cons, List.sum_cons, List.map_cons, List.sum_cons]
        omega
  unfold eventOf encodeLines
  rw [encodeUtf8_append, List.length_append, hblank]
  omega

/-- One more line makes an event longer. -/
theorem eventOf_concat_ne {group : List (List UInt8)} (h : group ≠ []) (line : List UInt8) :
    eventOf (group ++ [line]) ≠ eventOf group := by
  intro heq
  have hlength := congrArg List.length heq
  rw [length_eventOf h, length_eventOf (by simp), groupBytes_concat] at hlength
  unfold groupGrowth at hlength
  rw [List.map_append, List.sum_append] at hlength
  omega

/-! ## The last line -/

/-- The lines of a stream; the last one may lack its line feed. -/
def streamLines (stream : List UInt8) : List (List UInt8) :=
  textLines stream ++
    if tail stream = [] then [] else [dropCarriageReturn (tail stream)]

/-- What follows the last newline is nothing, or a line that is neither empty nor a
comment. -/
def TailIsData (stream : List UInt8) : Prop :=
  tail stream = [] ∨
    dropCarriageReturn (tail stream) ≠ [] ∧ isComment (dropCarriageReturn (tail stream)) = false

/-- The adapter's groups are those of the lines exactly when it may take the last line for one
of an event. -/
theorem allGroups_eq_iff (stream : List UInt8) :
    (allGroups stream).map eventOf = (eventGroups (streamLines stream)).map eventOf ↔
      TailIsData stream := by
  unfold allGroups TailIsData streamLines
  by_cases hnone : tail stream = []
  · rw [if_pos hnone, if_pos hnone, List.append_nil, groups_eq_eventGroups]
    exact iff_of_true rfl (.inl hnone)
  · rw [if_neg hnone, if_neg hnone, ← groups_eq_eventGroups, groupingOf_concat]
    generalize groupingOf (textLines stream) = grouping
    generalize dropCarriageReturn (tail stream) = line
    have hlonger : ∀ other : Grouping, other = grouping ∨
        other = ⟨grouping.closed ++ [grouping.pending], []⟩ ∧ grouping.pending ≠ [] →
        (grouping.closed ++ [grouping.pending ++ [line]]).map eventOf ≠
          other.groups.map eventOf := by
      rintro other hother heq
      have hgroups : other.groups =
          grouping.closed ++ if grouping.pending.isEmpty then [] else [grouping.pending] := by
        rcases hother with rfl | ⟨rfl, hopen⟩
        · unfold Grouping.groups
          split
          · exact (List.append_nil _).symm
          · rfl
        · have hisEmpty : grouping.pending.isEmpty = false := by
            rw [← Bool.not_eq_true, List.isEmpty_iff]
            exact hopen
          rw [hisEmpty]
          rfl
      rw [hgroups, List.map_append, List.map_append] at heq
      have hlast := List.append_cancel_left heq
      split at hlast
      · cases hlast
      · rename_i hopen
        have hne : grouping.pending ≠ [] := fun hnil => hopen (List.isEmpty_iff.mpr hnil)
        exact eventOf_concat_ne hne line (List.cons.inj hlast).1
    by_cases hempty : line = []
    · refine iff_of_false (hlonger _ ?_) ?_
      · unfold Grouping.add
        rw [if_pos (List.isEmpty_iff.mpr hempty)]
        split
        · exact .inl rfl
        · rename_i hopen
          exact .inr ⟨rfl, fun hnil => hopen (List.isEmpty_iff.mpr hnil)⟩
      · rintro (htail | ⟨hline, -⟩)
        · exact hnone htail
        · exact hline hempty
    · have hisEmpty : ¬ line.isEmpty = true := fun h => hempty (List.isEmpty_iff.mp h)
      by_cases hcomment : isComment line = true
      · refine iff_of_false (hlonger _ ?_) ?_
        · unfold Grouping.add
          rw [if_neg hisEmpty, if_pos hcomment]
          exact .inl rfl
        · rintro (htail | ⟨-, hline⟩)
          · exact hnone htail
          · rw [hcomment] at hline
            cases hline
      · refine iff_of_true ?_ (.inr ⟨hempty, (Bool.not_eq_true _).mp hcomment⟩)
        unfold Grouping.add Grouping.groups
        rw [if_neg hisEmpty, if_neg hcomment]
        simp

/-- Within the limits, the events of a stream, however it is cut into chunks, are its groups
exactly when what follows its last newline is a line of an event, if anything, and no comment
as long as the limit ends with a carriage return and a line feed. -/
theorem event_groups_iff {maxSseEventBytes : Int} (hmax : 1 ≤ maxSseEventBytes)
    {stream : List UInt8} (hwithin : WithinLimits maxSseEventBytes (streamLines stream)) :
    (∀ chunks : List (List UInt8), chunks.flatten = stream →
        eventStream maxSseEventBytes chunks =
          ⟨(eventGroups (streamLines stream)).map eventOf, none⟩) ↔
      TailIsData stream ∧
        ∀ before comment after,
          ¬ ExactComment maxSseEventBytes stream before comment after := by
  have hlines : WithinLimits maxSseEventBytes (textLines stream) :=
    withinLimits_of_append (by omega) hwithin
  constructor
  · intro hgroups
    constructor
    · have hreads := eventStream_singleton hmax stream
      rw [hgroups [stream] (by simp)] at hreads
      generalize houtcome : (⟨(eventGroups (streamLines stream)).map eventOf, none⟩ :
        StreamOutcome) = outcome at hreads
      cases hreads with
      | whole =>
          exact (allGroups_eq_iff stream).mp (congrArg StreamOutcome.events houtcome).symm
      | tailExceeds => cases congrArg StreamOutcome.raised houtcome
      | breaks => cases congrArg StreamOutcome.raised houtcome
    · intro before comment after hexact
      obtain ⟨chunks, hflatten, houtcome⟩ := hexact.outcome hmax
      rw [hgroups chunks hflatten] at houtcome
      cases congrArg StreamOutcome.raised houtcome
  · rintro ⟨htail, hexact⟩ chunks rfl
    rcases eventStream_cases hmax chunks with hreads | ⟨before, comment, after, hcut, -⟩
    · generalize eventStream maxSseEventBytes chunks = outcome at hreads
      cases hreads with
      | whole => rw [(allGroups_eq_iff _).mpr htail]
      | tailExceeds _ hexceeds =>
          obtain ⟨hnonempty, hlong⟩ := hexceeds
          rcases htail with hnil | ⟨hline, hcomment⟩
          · exact absurd hnil hnonempty
          · unfold streamLines at hwithin
            rw [if_neg hnonempty] at hwithin
            have hgroup := ((withinLimits_concat (by omega)).mp hwithin).2.2
            unfold Grouping.add at hgroup
            rw [if_neg (fun h => hline (List.isEmpty_iff.mp h)), hcomment,
              if_neg Bool.false_ne_true] at hgroup
            dsimp only at hgroup
            rw [groupBytes_concat] at hgroup
            omega
      | breaks hbreaks => exact absurd hlines (hbreaks.not_withinLimits (by omega))
    · exact absurd hcut (hexact before comment after)

/-- A comment that no newline ends is emitted, and so is the carriage return of a line feed
that never came. -/
theorem event_groups_unfinished :
    (WithinLimits 100 (streamLines (ascii ": ping")) ∧
      eventStream 100 [ascii ": ping"] = ⟨[ascii ": ping\n\n"], none⟩ ∧
      eventGroups (streamLines (ascii ": ping")) = []) ∧
    WithinLimits 100 (streamLines (ascii "data: x\n\n\r")) ∧
      eventStream 100 [ascii "data: x\n\n\r"] =
        ⟨[ascii "data: x\n\n", ascii "\n\n"], none⟩ ∧
      (eventGroups (streamLines (ascii "data: x\n\n\r"))).map eventOf =
        [ascii "data: x\n\n"] := by
  unfold WithinLimits
  rw [← groups_eq_eventGroups, ← groups_eq_eventGroups]
  decide

/-- The events of a stream that ends with a blank line are its groups, without its comment. -/
theorem event_groups_blank :
    eventStream 8 (heartbeatStream.map ([·])) =
      ⟨(eventGroups (streamLines heartbeatStream)).map eventOf, none⟩ := by
  have hwithin : WithinLimits 8 (streamLines heartbeatStream) := by
    unfold WithinLimits
    decide
  exact (event_groups_iff (by decide : (1 : Int) ≤ 8) hwithin).mpr
    ⟨.inl (by decide), not_exactComment_heartbeatStream⟩ _ (by decide)

end Providers
end FreeLunch
