import FreeLunch.Gateway.StreamErrors
import FreeLunch.Gateway.ChatCompletions
import FreeLunch.Providers.EventGroups

/-!
# The sizes of emitted events

The adapter measures the lines of an event as they came, each with one byte for its separator.
The proxy measures the event that the adapter made of them, with the same limit: decoded and
encoded again, and ended by a blank line.

Main results:

- Theorem `Reads.mem_events_iff`: the events of a stream are those of its accepted groups.
- Theorem `event_sizes_iff`: the streams whose events the proxy never rejects for their size.
-/

namespace FreeLunch
namespace Providers

open Gateway Python

/-! ## The events that are emitted -/

/-- A group of lines that are within the limits, with all lines before them: an empty line
ends it, or the stream does. -/
inductive AcceptedGroup (maxSseEventBytes : Int) (stream : List UInt8) :
    List (List UInt8) → Prop where
  | closed {before rest : List (List UInt8)} (hlines : textLines stream = before ++ [] :: rest)
      (hwithin : WithinLimits maxSseEventBytes before)
      (hopen : (groupingOf before).pending ≠ []) :
      AcceptedGroup maxSseEventBytes stream (groupingOf before).pending
  | last (hwithin : WithinLimits maxSseEventBytes (textLines stream)) (htail : tail stream = [])
      (hopen : (groupingOf (textLines stream)).pending ≠ []) :
      AcceptedGroup maxSseEventBytes stream (groupingOf (textLines stream)).pending
  | unfinished (hwithin : WithinLimits maxSseEventBytes (textLines stream))
      (htail : tail stream ≠ []) (hfits : ¬ TailExceeds maxSseEventBytes stream) :
      AcceptedGroup maxSseEventBytes stream
        ((groupingOf (textLines stream)).pending ++ [dropCarriageReturn (tail stream)])

/-- A group has a line. -/
theorem AcceptedGroup.ne_nil {maxSseEventBytes : Int} {stream : List UInt8}
    {group : List (List UInt8)} (h : AcceptedGroup maxSseEventBytes stream group) :
    group ≠ [] := by
  cases h with
  | closed _ _ hopen => exact hopen
  | last _ _ hopen => exact hopen
  | unfinished => simp

/-- The closed groups are those that an empty line has ended. -/
theorem mem_closed_iff {lines group : List (List UInt8)} :
    group ∈ (groupingOf lines).closed ↔
      ∃ before rest, lines = before ++ [] :: rest ∧ group = (groupingOf before).pending ∧
        group ≠ [] := by
  induction lines using List.reverseRecOn with
  | nil =>
      constructor
      · intro h
        cases h
      · rintro ⟨before, rest, hlines, -⟩
        simp at hlines
  | append_singleton lines line ih =>
      have hsplit : (∃ before rest, lines ++ [line] = before ++ [] :: rest ∧
          group = (groupingOf before).pending ∧ group ≠ []) ↔
          group ∈ (groupingOf lines).closed ∨
            line = [] ∧ group = (groupingOf lines).pending ∧ group ≠ [] := by
        rw [ih]
        constructor
        · rintro ⟨before, rest, hlines, hgroup⟩
          rcases List.eq_nil_or_concat rest with rfl | ⟨rest, last, rfl⟩
          · obtain ⟨rfl, hline⟩ := List.append_inj' hlines rfl
            exact .inr ⟨(List.cons.inj hline).1, hgroup⟩
          · rw [List.concat_eq_append, ← List.cons_append, ← List.append_assoc] at hlines
            obtain ⟨rfl, -⟩ := List.append_inj' hlines rfl
            exact .inl ⟨before, rest, rfl, hgroup⟩
        · rintro (⟨before, rest, rfl, hgroup⟩ | ⟨rfl, hgroup⟩)
          · exact ⟨before, rest ++ [line], by simp, hgroup⟩
          · exact ⟨lines, [], rfl, hgroup⟩
      rw [hsplit, groupingOf_concat]
      unfold Grouping.add
      by_cases hempty : line = []
      · rw [if_pos (List.isEmpty_iff.mpr hempty)]
        by_cases hnone : (groupingOf lines).pending = []
        · rw [if_pos (List.isEmpty_iff.mpr hnone), hnone]
          refine (or_iff_left ?_).symm
          rintro ⟨-, hgroup, hne⟩
          exact hne hgroup
        · rw [if_neg fun h => hnone (List.isEmpty_iff.mp h), List.mem_append, List.mem_singleton]
          refine or_congr_right ?_
          constructor
          · rintro rfl
            exact ⟨hempty, rfl, hnone⟩
          · rintro ⟨-, hgroup, -⟩
            exact hgroup
      · rw [if_neg fun h => hempty (List.isEmpty_iff.mp h)]
        have hclosed : group ∈ (groupingOf lines).closed ↔
            group ∈ (groupingOf lines).closed ∨
              line = [] ∧ group = (groupingOf lines).pending ∧ group ≠ [] :=
          (or_iff_left fun h => hempty h.1).symm
        split <;> exact hclosed

/-- An empty line is within the limits. -/
theorem withinLimits_concat_nil {maxSseEventBytes : Int} (hmax : 0 ≤ maxSseEventBytes)
    {lines : List (List UInt8)} (h : WithinLimits maxSseEventBytes lines) :
    WithinLimits maxSseEventBytes (lines ++ [[]]) := by
  refine (withinLimits_concat hmax).mpr ⟨h, hmax, ?_⟩
  unfold Grouping.add
  rw [if_pos (by rfl)]
  split
  · exact h.pending_le hmax
  · exact hmax

/-- The groups that are closed within the limits are accepted. -/
theorem AcceptedGroup.of_mem_closed {maxSseEventBytes : Int} (hmax : 0 ≤ maxSseEventBytes)
    {stream : List UInt8} {lines more group : List (List UInt8)}
    (hlines : textLines stream = lines ++ more) (hwithin : WithinLimits maxSseEventBytes lines)
    (hgroup : group ∈ (groupingOf lines).closed) :
    AcceptedGroup maxSseEventBytes stream group := by
  obtain ⟨before, rest, rfl, rfl, hopen⟩ := mem_closed_iff.mp hgroup
  have hstream : textLines stream = before ++ [] :: (rest ++ more) := by
    rw [hlines]
    simp
  exact .closed hstream (withinLimits_of_append hmax hwithin) hopen

/-- The groups that an empty line closes are closed before the limits are exceeded. -/
theorem Breaks.mem_closed {maxSseEventBytes : Int} (hmax : 0 ≤ maxSseEventBytes)
    {lines first before rest : List (List UInt8)} (h : Breaks maxSseEventBytes lines first)
    (hlines : lines = before ++ [] :: rest) (hwithin : WithinLimits maxSseEventBytes before)
    (hopen : (groupingOf before).pending ≠ []) :
    (groupingOf before).pending ∈ (groupingOf first).closed := by
  have hsplit : lines = (before ++ [[]]) ++ rest := by
    rw [hlines]
    simp
  rw [hsplit] at h
  obtain ⟨more, rfl⟩ := h.prefix_of_within hmax (withinLimits_concat_nil hmax hwithin)
  exact mem_closed_iff.mpr ⟨before, more, by simp, rfl, hopen⟩

/-- The events of a stream that is read line by line are those of its accepted groups. -/
theorem Reads.mem_events_iff {maxSseEventBytes : Int} (hmax : 1 ≤ maxSseEventBytes)
    {stream : List UInt8} {outcome : StreamOutcome}
    (h : Reads maxSseEventBytes stream outcome) {event : List UInt8} :
    event ∈ outcome.events ↔
      ∃ group, AcceptedGroup maxSseEventBytes stream group ∧ eventOf group = event := by
  have hzero : 0 ≤ maxSseEventBytes := by omega
  have hclosed : ∀ {before rest : List (List UInt8)}, textLines stream = before ++ [] :: rest →
      (groupingOf before).pending ≠ [] →
        (groupingOf before).pending ∈ (groupingOf (textLines stream)).closed := by
    intro before rest hlines hopen
    exact mem_closed_iff.mpr ⟨before, rest, hlines, rfl, hopen⟩
  cases h with
  | whole hlines hfits =>
      dsimp only
      rw [List.mem_map]
      refine exists_congr fun group => and_congr_left fun _ => ?_
      unfold allGroups
      by_cases htail : tail stream = []
      · rw [if_pos htail, mem_groups]
        constructor
        · rintro (hgroup | ⟨rfl, hopen⟩)
          · exact .of_mem_closed hzero (List.append_nil _).symm hlines hgroup
          · exact .last hlines htail hopen
        · rintro (⟨hsplit, -, hopen⟩ | ⟨-, -, hopen⟩ | ⟨-, hsome, -⟩)
          · exact .inl (hclosed hsplit hopen)
          · exact .inr ⟨rfl, hopen⟩
          · exact absurd htail hsome
      · rw [if_neg htail, List.mem_append, List.mem_singleton]
        constructor
        · rintro (hgroup | rfl)
          · exact .of_mem_closed hzero (List.append_nil _).symm hlines hgroup
          · exact .unfinished hlines htail hfits
        · rintro (⟨hsplit, -, hopen⟩ | ⟨-, hnone, -⟩ | ⟨-, -, -⟩)
          · exact .inl (hclosed hsplit hopen)
          · exact absurd hnone htail
          · exact .inr rfl
  | tailExceeds hlines hexceeds =>
      unfold exceededAfter
      dsimp only
      rw [List.mem_map]
      refine exists_congr fun group => and_congr_left fun _ => ?_
      constructor
      · exact .of_mem_closed hzero (List.append_nil _).symm hlines
      · rintro (⟨hsplit, -, hopen⟩ | ⟨-, hnone, -⟩ | ⟨-, -, hfits⟩)
        · exact hclosed hsplit hopen
        · exact absurd hnone hexceeds.1
        · exact absurd hexceeds hfits
  | breaks hbreaks =>
      unfold exceededAfter
      dsimp only
      rw [List.mem_map]
      refine exists_congr fun group => and_congr_left fun _ => ?_
      have hnot := hbreaks.not_withinLimits hzero
      constructor
      · obtain ⟨line, rest, hlines, -⟩ := hbreaks.next
        exact .of_mem_closed hzero hlines hbreaks.within
      · rintro (⟨hsplit, hwithin, hopen⟩ | ⟨hlines, -, -⟩ | ⟨hlines, -, -⟩)
        · exact hbreaks.mem_closed hzero hsplit hwithin hopen
        · exact absurd hlines hnot
        · exact absurd hlines hnot

/-- Whatever the chunks, the events are those of accepted groups. -/
theorem accepted_of_mem_events {maxSseEventBytes : Int} (hmax : 1 ≤ maxSseEventBytes)
    {chunks : List (List UInt8)} {event : List UInt8}
    (h : event ∈ (eventStream maxSseEventBytes chunks).events) :
    ∃ group, AcceptedGroup maxSseEventBytes chunks.flatten group ∧ eventOf group = event := by
  rcases eventStream_cases hmax chunks with hreads | ⟨before, comment, after, hexact, houtcome⟩
  · exact (hreads.mem_events_iff hmax).mp h
  · rw [houtcome] at h
    obtain ⟨group, hgroup, heq⟩ := List.mem_map.mp h
    obtain ⟨more, hmore⟩ := hexact.textLines_eq
    exact ⟨group, .of_mem_closed (by omega) hmore hexact.reached hgroup, heq⟩

end Providers

namespace Gateway

open Providers Python

/-! ## The check of the proxy -/

/-- The size error of the proxy. -/
def sizeError : Raised :=
  .provider (providerRetryableError "provider SSE event exceeded size limit")

/-- An event is within the limit, and the proxy does not reject it for its size: neither as
the first event nor in the relay. -/
structure EventFits (F : Type) [Runtime F] (settings : GatewaySettings)
    (event : List UInt8) : Prop where
  length_le : (event.length : Int) ≤ settings.gatewayMaxSseEventBytes
  first : firstStreamEvent settings [.ok event] ≠ .error sizeError
  relayed : ∀ (ctx : RelayContext) (clock : RelayClock) (client : DisconnectPattern) (turn : Nat)
    (st : RelayState F), ctx.settings = settings →
      (relayLoop ctx clock client turn [.ok event] st).1 ≠ some sizeError

section Sizes

variable {F : Type} [Runtime F]

/-- The proxy rejects no event for its size that is within the limit. -/
theorem eventFits_of_length_le {settings : GatewaySettings} {event : List UInt8}
    (h : (event.length : Int) ≤ settings.gatewayMaxSseEventBytes) :
    EventFits F settings event := by
  refine ⟨h, ?_, ?_⟩
  · rw [firstStreamEvent, if_neg (Int.not_lt.mpr h)]
    split
    · intro heq
      cases heq
    · intro heq
      cases heq
  · rintro ctx clock client turn st rfl
    have hlate : ∀ text, some (Raised.timeout text) ≠ some sizeError := by
      intro text heq
      cases heq
    have hend : ∀ turn (st : RelayState F),
        (relayLoop ctx clock client turn [] st).1 ≠ some sizeError := by
      intro turn st
      rw [relayLoop]
      split
      · exact hlate _
      · intro heq
        cases heq
    rw [relayLoop]
    split
    · exact hlate _
    · rw [if_neg (Int.not_lt.mpr h)]
      split
      · intro heq
        cases heq
      · split
        · rename_i exc _
          intro heq
          exact raisedOf_ne_provider exc _ (Option.some.inj heq)
        · exact hend _ _

/-- However a stream is cut into chunks, its events are within the limit, and the proxy
rejects none of them for its size, exactly when every accepted group stays below the limit with
the separators of its lines and what replacing adds to them. -/
theorem event_sizes_iff {settings : GatewaySettings}
    (hmax : 1 ≤ settings.gatewayMaxSseEventBytes) (stream : List UInt8) :
    (∀ chunks : List (List UInt8), chunks.flatten = stream →
        ∀ event ∈ (eventStream settings.gatewayMaxSseEventBytes chunks).events,
          EventFits F settings event) ↔
      ∀ group, AcceptedGroup settings.gatewayMaxSseEventBytes stream group →
        ((groupBytes group + groupGrowth group : Nat) : Int) <
          settings.gatewayMaxSseEventBytes := by
  constructor
  · intro hfits group hgroup
    have hevent := ((eventStream_singleton hmax stream).mem_events_iff hmax).mpr
      ⟨group, hgroup, rfl⟩
    have hlength := (hfits [stream] (by simp) _ hevent).length_le
    rw [length_eventOf hgroup.ne_nil] at hlength
    omega
  · rintro hgroups chunks rfl event hevent
    obtain ⟨group, hgroup, rfl⟩ := accepted_of_mem_events hmax hevent
    refine eventFits_of_length_le ?_
    rw [length_eventOf hgroup.ne_nil]
    have hlength := hgroups group hgroup
    omega

end Sizes

/-- Settings with a limit of a few bytes. -/
def tightSettings (maxSseEventBytes : Int) : GatewaySettings :=
  { sampleContext.settings with gatewayMaxSseEventBytes := maxSseEventBytes }

/-- A line of the limit's length with its separator makes an event that the proxy rejects, and
so does an invalid byte well below the limit. -/
theorem event_sizes_exceeded :
    eventStream 8 [ascii "data: x\n\n"] = ⟨[ascii "data: x\n\n"], none⟩ ∧
      firstStreamEvent (tightSettings 8) [.ok (ascii "data: x\n\n")] = .error sizeError ∧
      (relayLoop (F := Exact) { sampleContext with settings := tightSettings 8 } sampleClock
        stayingClient 0 [.ok (ascii "data: x\n\n")] .initial).1 = some sizeError ∧
      eventStream 4 [[0xff, newline, newline]] =
        ⟨[[0xef, 0xbf, 0xbd, newline, newline]], none⟩ ∧
      firstStreamEvent (tightSettings 4) [.ok [0xef, 0xbf, 0xbd, newline, newline]] =
        .error sizeError := by
  decide +kernel

/-- A short event fits. -/
theorem event_sizes_short : EventFits Exact (tightSettings 8) (ascii "data\n\n") := by
  have hmax : 1 ≤ (tightSettings 8).gatewayMaxSseEventBytes := by decide
  refine (event_sizes_iff hmax (ascii "data\n\n")).mpr ?_ [ascii "data\n\n"] rfl _ (by decide)
  intro group hgroup
  have hevent := ((eventStream_singleton hmax _).mem_events_iff hmax).mpr ⟨group, hgroup, rfl⟩
  have hevents : (eventStream (tightSettings 8).gatewayMaxSseEventBytes
      [ascii "data\n\n"]).events = [ascii "data\n\n"] := by
    decide
  rw [hevents, List.mem_singleton] at hevent
  have hlength := congrArg List.length hevent
  have hsix : (ascii "data\n\n").length = 6 := rfl
  have hlimit : (tightSettings 8).gatewayMaxSseEventBytes = 8 := rfl
  rw [length_eventOf hgroup.ne_nil, hsix] at hlength
  rw [hlimit]
  omega

end Gateway
end FreeLunch
