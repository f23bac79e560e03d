import Mathlib.Data.List.Nodup
import Mathlib.Data.Prod.Lex
import Mathlib.Data.String.Basic
import Orchestration.Proofs.DisplayIds
import Orchestration.Proofs.EventLog
import Orchestration.Proofs.SortImage
import Orchestration.Proofs.Sorted

namespace Orchestration

open Event (activity countOf firstGreatest instants? labelOf latest? summarize)

section Rows

variable {events : List Event} {e : Event}

def EventStatus.weight (status other : EventStatus) : Nat := if other = status then 1 else 0

namespace Activity

-- The row of a node of which nothing was reported.
def blank (nodeId : String) : Activity := ⟨nodeId, "", 0, 0, 0⟩

-- The row with one event more. A label that is not empty stays.
def add (a : Activity) (e : Event) : Activity where
  nodeId := a.nodeId
  nodeLabel := if a.nodeLabel = "" then e.nodeLabel else a.nodeLabel
  successes := a.successes + EventStatus.success.weight e.status
  warnings := a.warnings + EventStatus.warning.weight e.status
  errors := a.errors + EventStatus.error.weight e.status

def unlabeled (a : Activity) : Activity := { a with nodeLabel := "" }

end Activity

namespace Event

-- The rows of a log, in the order in which their nodes were first reported of.
def rows (events : List Event) : List Activity := (events.map Event.nodeId).eraseDups.map (activity events)

-- An event comes in.
def tally (rows : List Activity) (e : Event) : List Activity :=
  if e.nodeId ∈ rows.map Activity.nodeId then rows.map fun a => if a.nodeId = e.nodeId then a.add e else a
  else rows ++ [(Activity.blank e.nodeId).add e]

theorem countOf_concat (status : EventStatus) :
    countOf status (events ++ [e]) = countOf status events + status.weight e.status := by
  by_cases same : e.status = status <;> simp [countOf, EventStatus.weight, same]

theorem labelOf_concat :
    labelOf (events ++ [e]) = if labelOf events = "" then e.nodeLabel else labelOf events := by
  rw [labelOf, labelOf, List.map_append, List.find?_append]
  cases found : (events.map Event.nodeLabel).find? (· != "") with
  | none => by_cases empty : e.nodeLabel = "" <;> simp [empty]
  | some label =>
    have given : label ≠ "" := by simpa using List.find?_some found
    simp [given]

theorem activity_concat (key : String) : activity (events ++ [e]) key =
    if e.nodeId = key then (activity events key).add e else activity events key := by
  by_cases own : e.nodeId = key
  · have kept : (events ++ [e]).filter (·.nodeId == key) = events.filter (·.nodeId == key) ++ [e] := by simp [own]
    rw [if_pos own, activity, kept, countOf_concat, countOf_concat, countOf_concat, labelOf_concat]
    rfl
  · have kept : (events ++ [e]).filter (·.nodeId == key) = events.filter (·.nodeId == key) := by simp [own]
    rw [if_neg own, activity, kept]
    rfl

theorem activity_of_new {key : String} (new : key ∉ events.map Event.nodeId) : activity events key = .blank key := by
  have none : events.filter (·.nodeId == key) = [] := by
    apply List.filter_eq_nil_iff.mpr
    intro e mem same
    exact new (eq_of_beq same ▸ List.mem_map_of_mem mem)
  rw [activity, none]
  rfl

theorem ids_rows (events : List Event) : (rows events).map Activity.nodeId = (events.map Event.nodeId).eraseDups := by
  rw [rows, List.map_map]
  exact List.map_id _

theorem mem_ids_rows {key : String} : key ∈ (rows events).map Activity.nodeId ↔ key ∈ events.map Event.nodeId := by
  rw [ids_rows, List.mem_eraseDups]

theorem rows_nodup (events : List Event) : ((rows events).map Activity.nodeId).Nodup := by
  rw [ids_rows]
  exact eraseDups_nodup _

theorem rows_concat : rows (events ++ [e]) = tally (rows events) e := by
  have ids : ((events ++ [e]).map Event.nodeId).eraseDups =
      (events.map Event.nodeId).eraseDups ++ ([e.nodeId].removeAll (events.map Event.nodeId)).eraseDups := by
    rw [List.map_append, List.eraseDups_append]
    rfl
  by_cases known : e.nodeId ∈ events.map Event.nodeId
  · have old : [e.nodeId].removeAll (events.map Event.nodeId) = [] := by simpa [List.removeAll] using known
    rw [rows, ids, old, List.eraseDups_nil, List.append_nil, tally, if_pos (mem_ids_rows.mpr known), rows, List.map_map]
    refine List.map_congr_left fun key _ => ?_
    rw [activity_concat]
    by_cases own : e.nodeId = key
    · exact (if_pos own).trans (if_pos own.symm).symm
    · exact (if_neg own).trans (if_neg (Ne.symm own)).symm
  · have fresh : [e.nodeId].removeAll (events.map Event.nodeId) = [e.nodeId] := by simpa [List.removeAll] using known
    have once : [e.nodeId].eraseDups = [e.nodeId] := rfl
    rw [rows, ids, fresh, once, List.map_append, List.map_singleton, activity_concat, if_pos rfl, activity_of_new known,
      tally, if_neg (mt mem_ids_rows.mp known)]
    congr 1
    refine List.map_congr_left fun key mem => ?_
    rw [activity_concat, if_neg]
    intro same
    exact known (same ▸ List.mem_eraseDups.mp mem)

-- The rows as they are kept while the log comes in.
theorem rows_tallied (events : List Event) : events.foldl tally [] = rows events := by
  induction events using List.reverseRecOn with
  | nil => rfl
  | append_singleton events e ih => rw [List.foldl_concat, ih, rows_concat]

-- One row grows by what an event adds, and none shrinks.
theorem sum_tally {count : Activity → Nat} {weight : Event → Nat} (start : ∀ key, count (.blank key) = 0)
    (grows : ∀ a e, count (a.add e) = count a + weight e) {rows : List Activity}
    (distinct : (rows.map Activity.nodeId).Nodup) (e : Event) :
    ((tally rows e).map count).sum = (rows.map count).sum + weight e := by
  unfold tally
  split
  · rename_i known
    obtain ⟨own, mem, same⟩ := List.mem_map.mp known
    obtain ⟨before, after, rfl⟩ := List.append_of_mem mem
    rw [List.map_append, List.map_cons, List.nodup_middle, List.nodup_cons, ← List.map_append, same] at distinct
    have others : ∀ part ⊆ before ++ after, part.map (fun a => if a.nodeId = e.nodeId then a.add e else a) = part := by
      intro part among
      refine (List.map_congr_left fun a mem => if_neg ?_).trans (List.map_id part)
      intro again
      exact distinct.1 (again ▸ List.mem_map_of_mem (among mem))
    rw [List.map_append, List.map_cons, others before (List.subset_append_left _ _),
      others after (List.subset_append_right _ _), if_pos same]
    simp only [List.map_append, List.map_cons, List.sum_append, List.sum_cons, grows]
    omega
  · rw [List.map_append, List.sum_append, List.map_singleton, List.sum_singleton, grows, start, Nat.zero_add]

theorem sum_rows {count : Activity → Nat} {weight : Event → Nat} (start : ∀ key, count (.blank key) = 0)
    (grows : ∀ a e, count (a.add e) = count a + weight e) (events : List Event) :
    ((rows events).map count).sum = (events.map weight).sum := by
  induction events using List.reverseRecOn with
  | nil => rfl
  | append_singleton events e ih =>
    rw [rows_concat, sum_tally start grows (rows_nodup events), ih, List.map_append, List.sum_append]
    rfl

theorem countOf_sum (status : EventStatus) (events : List Event) :
    (events.map fun e => status.weight e.status).sum = countOf status events := by
  induction events using List.reverseRecOn with
  | nil => rfl
  | append_singleton events e ih =>
    rw [countOf_concat, ← ih, List.map_append, List.sum_append]
    rfl

theorem counts_add (events : List Event) :
    countOf .success events + countOf .warning events + countOf .error events = events.length := by
  induction events using List.reverseRecOn with
  | nil => rfl
  | append_singleton events e ih =>
    rw [countOf_concat, countOf_concat, countOf_concat, List.length_append, ← ih]
    cases e.status <;> simp only [EventStatus.weight, reduceCtorEq, ite_true, ite_false, List.length_singleton] <;> omega

end Event
end Rows

section Latest

variable {α κ : Type}

namespace Event

theorem firstGreatest_eq_none {value : α → κ} {lt : κ → κ → Bool} {xs : List α} :
    firstGreatest value lt xs = none ↔ xs = [] := by
  cases xs <;> simp [firstGreatest]

theorem firstGreatest_greatest [LinearOrder κ] {value : α → κ} {xs : List α}
    (found : firstGreatest value (fun a b => decide (a < b)) xs = some x) : ∀ y ∈ xs, value y ≤ value x := by
  have least : Sort.least? (fun y best => decide (value best < value y)) xs = some x := by
    cases xs with
    | nil => cases found
    | cons first rest => exact found
  intro y mem
  have ranked := Sort.compares_rank fun y => OrderDual.toDual (value y)
  simpa using Sort.least?_least ranked least y mem

end Event

-- Timestamps that are instants, all of one kind, can be compared with each other.
def Comparable (timestamps : List String) : Prop :=
  ∃ absolute, ∀ text ∈ timestamps, ∃ i, Instant.parse text = some i ∧ i.absolute = absolute

theorem Comparable.perm {texts texts' : List String} (comparable : Comparable texts) (perm : texts.Perm texts') :
    Comparable texts' := by
  obtain ⟨absolute, each⟩ := comparable
  exact ⟨absolute, fun text mem => each text (perm.mem_iff.mpr mem)⟩

namespace Event

theorem parsed_of_mapM {texts : List String}
    (parsed : texts.mapM (fun t => (Instant.parse t).map fun i => (t, i)) = some pairs) :
    ∀ pair ∈ pairs, Instant.parse pair.1 = some pair.2 := by
  induction texts generalizing pairs with
  | nil =>
    cases parsed
    exact fun _ mem => absurd mem List.not_mem_nil
  | cons text texts ih =>
    rw [List.mapM_cons] at parsed
    obtain ⟨first, one, later⟩ := Option.bind_eq_some_iff.mp parsed
    obtain ⟨others, more, same⟩ := Option.bind_eq_some_iff.mp later
    obtain ⟨i, read, rfl⟩ := Option.map_eq_some_iff.mp one
    cases same
    exact List.forall_mem_cons.mpr ⟨read, ih more⟩

theorem mapM_of_parsed {texts : List String} (each : ∀ text ∈ texts, ∃ i, Instant.parse text = some i) :
    ∃ pairs, texts.mapM (fun t => (Instant.parse t).map fun i => (t, i)) = some pairs := by
  induction texts with
  | nil => exact ⟨[], rfl⟩
  | cons text texts ih =>
    obtain ⟨⟨i, read⟩, others⟩ := List.forall_mem_cons.mp each
    obtain ⟨pairs, parsed⟩ := ih others
    refine ⟨(text, i) :: pairs, ?_⟩
    rw [List.mapM_cons, read, parsed]
    rfl

theorem instants?_parts {texts : List String} (read : instants? texts = some pairs) :
    (∀ pair ∈ pairs, Instant.parse pair.1 = some pair.2) ∧ ∃ absolute, ∀ pair ∈ pairs, pair.2.absolute = absolute := by
  obtain ⟨all, parsed, rest⟩ := Option.bind_eq_some_iff.mp read
  split at rest
  · rename_i kind
    cases rest
    refine ⟨parsed_of_mapM parsed, ?_⟩
    rcases Bool.or_eq_true_iff.mp kind with absolute | local'
    · exact ⟨true, fun pair mem => List.all_eq_true.mp absolute pair mem⟩
    · exact ⟨false, fun pair mem => by simpa using List.all_eq_true.mp local' pair mem⟩
  · cases rest

theorem comparable_of_instants {texts : List String} (read : instants? texts = some pairs) : Comparable texts := by
  obtain ⟨parsed, absolute, kind⟩ := instants?_parts read
  refine ⟨absolute, fun text mem => ?_⟩
  rw [← texts_of_instants read] at mem
  obtain ⟨pair, among, rfl⟩ := List.mem_map.mp mem
  exact ⟨pair.2, parsed pair among, kind pair among⟩

theorem instants_of_comparable {texts : List String} (comparable : Comparable texts) :
    ∃ pairs, instants? texts = some pairs := by
  obtain ⟨absolute, each⟩ := comparable
  obtain ⟨pairs, parsed⟩ := mapM_of_parsed fun text mem => (each text mem).imp fun _ => And.left
  have kind : ∀ pair ∈ pairs, pair.2.absolute = absolute := by
    intro pair mem
    have among : pair.1 ∈ texts := texts_of_mapM parsed ▸ List.mem_map_of_mem mem
    obtain ⟨i, read, same⟩ := each pair.1 among
    cases (parsed_of_mapM parsed pair mem).symm.trans read
    exact same
  refine ⟨pairs, Option.bind_eq_some_iff.mpr ⟨pairs, parsed, if_pos ?_⟩⟩
  rw [Bool.or_eq_true, List.all_eq_true, List.all_eq_true]
  cases absolute with
  | true => exact .inl kind
  | false => exact .inr fun pair mem => by rw [kind pair mem]; rfl

end Event

-- The last of some timestamps: there is one if there are timestamps, and it is one of them. No other one is later, or
-- greater as a text where instants cannot be compared.
structure Latest (timestamps : List String) (last : Option String) : Prop where
  empty : last = none ↔ timestamps = []
  among : ∀ text ∈ last, text ∈ timestamps
  instants : Comparable timestamps → ∀ text ∈ last, ∀ i ∈ Instant.parse text,
    ∀ other ∈ timestamps, ∀ j ∈ Instant.parse other, j.micros ≤ i.micros
  texts : ¬ Comparable timestamps → ∀ text ∈ last, ∀ other ∈ timestamps, other ≤ text

theorem Event.latest?_latest (timestamps : List String) : Latest timestamps (latest? timestamps) := by
  cases read : instants? timestamps with
  | some pairs =>
    have latest : latest? timestamps =
        (firstGreatest (·.2.micros) (fun a b : Int => decide (a < b)) pairs).map (·.1) := by rw [latest?, read]
    have texts := texts_of_instants read
    have parsed := (instants?_parts read).1
    refine ⟨?_, fun _ => latest?_mem, ?_, fun apart => absurd (comparable_of_instants read) apart⟩
    · rw [latest, Option.map_eq_none_iff, firstGreatest_eq_none, ← texts, List.map_eq_nil_iff]
    · intro _ text last i instant other mem j later
      obtain ⟨pair, greatest, rfl⟩ := Option.map_eq_some_iff.mp (latest.symm.trans last)
      obtain ⟨rival, present, rfl⟩ := List.mem_map.mp (texts ▸ mem)
      cases (parsed pair (firstGreatest_mem greatest)).symm.trans instant
      cases (parsed rival present).symm.trans later
      exact firstGreatest_greatest greatest rival present
  | none =>
    have latest : latest? timestamps = firstGreatest (fun t => t) (fun a b : String => decide (a < b)) timestamps := by
      rw [latest?, read]
    refine ⟨?_, fun _ => latest?_mem, ?_, ?_⟩
    · rw [latest, firstGreatest_eq_none]
    · intro comparable
      obtain ⟨pairs, given⟩ := instants_of_comparable comparable
      cases read.symm.trans given
    · intro _ text last
      exact firstGreatest_greatest (latest.symm.trans last)

-- Timestamps that are one, or stand for one instant.
def Concur (last last' : Option String) : Prop :=
  last = last' ∨ ∃ text ∈ last, ∃ text' ∈ last', ∃ i, Instant.parse text = some i ∧ Instant.parse text' = some i

theorem Latest.concur {texts texts' : List String} (latest : Latest texts last) (latest' : Latest texts' last')
    (perm : texts.Perm texts') : Concur last last' := by
  cases last with
  | none =>
    have none' : texts' = [] := List.nil_perm.mp (latest.empty.mp rfl ▸ perm)
    exact .inl (latest'.empty.mpr none').symm
  | some text =>
    cases last' with
    | none =>
      have none : texts = [] := List.perm_nil.mp (latest'.empty.mp rfl ▸ perm)
      cases latest.empty.mpr none
    | some text' =>
      have mem : text ∈ texts := latest.among text rfl
      have mem' : text' ∈ texts' := latest'.among text' rfl
      have other : text' ∈ texts := perm.mem_iff.mpr mem'
      have other' : text ∈ texts' := perm.mem_iff.mp mem
      by_cases comparable : Comparable texts
      · obtain ⟨absolute, each⟩ := comparable
        obtain ⟨i, read, kind⟩ := each text mem
        obtain ⟨j, read', kind'⟩ := each text' other
        have early := latest.instants ⟨absolute, each⟩ text rfl i read text' other j read'
        have late := latest'.instants (Comparable.perm ⟨absolute, each⟩ perm) text' rfl j read' text other' i read
        have same : i = j := by
          cases i
          cases j
          exact congrArg₂ Instant.mk (kind.trans kind'.symm) (le_antisymm late early)
        exact .inr ⟨text, rfl, text', rfl, i, read, same ▸ read'⟩
      · have apart : ¬ Comparable texts' := fun again => comparable (again.perm perm.symm)
        have below := latest.texts comparable text rfl text' other
        have above := latest'.texts apart text' rfl text other'
        exact .inl (congrArg some (le_antisymm above below))

namespace Event

-- Timestamps are looked at one after the other, until one is no instant or is not of the kind of the best so far.
def scan (best : String × Instant) : List String → Option (String × Instant)
  | [] => some best
  | text :: rest =>
      match Instant.parse text with
      | none => none
      | some i =>
          if i.absolute = best.2.absolute then scan (if best.2.micros < i.micros then (text, i) else best) rest
          else none

theorem scan_eq (best : String × Instant) (texts : List String) : scan best texts =
    (texts.mapM fun t => (Instant.parse t).map fun i => (t, i)).bind fun pairs =>
      if pairs.all (·.2.absolute == best.2.absolute) then
        some (pairs.foldl (fun best pair => if best.2.micros < pair.2.micros then pair else best) best)
      else none := by
  induction texts generalizing best with
  | nil => rfl
  | cons text rest ih =>
    rw [scan, List.mapM_cons]
    cases Instant.parse text with
    | none => rfl
    | some i =>
      dsimp only
      by_cases kind : i.absolute = best.2.absolute
      · have kept : (if best.2.micros < i.micros then (text, i) else best).2.absolute = best.2.absolute := by
          split
          · exact kind
          · rfl
        rw [if_pos kind, ih, kept]
        cases rest.mapM fun t => (Instant.parse t).map fun i => (t, i) with
        | none => rfl
        | some pairs =>
          change _ = if (i.absolute == best.2.absolute && _) = true then _ else none
          rw [kind, beq_self_eq_true, Bool.true_and]
          rfl
      · rw [if_neg kind]
        cases rest.mapM fun t => (Instant.parse t).map fun i => (t, i) with
        | none => rfl
        | some pairs => simp [kind]

theorem same_kind (first : String × Instant) (pairs : List (String × Instant)) :
    ((first :: pairs).all (·.2.absolute) || (first :: pairs).all (!·.2.absolute)) =
      pairs.all (·.2.absolute == first.2.absolute) := by
  cases kind : first.2.absolute <;> simp [kind]

-- If the timestamps are looked at to the end, it is the latest instant that was found. Otherwise texts are compared.
theorem latest?_scan (text : String) (rest : List String) : latest? (text :: rest) =
    match (Instant.parse text).bind fun i => scan (text, i) rest with
    | some best => some best.1
    | none => firstGreatest (fun t => t) (fun a b : String => decide (a < b)) (text :: rest) := by
  have read : instants? (text :: rest) = (Instant.parse text).bind fun i =>
      (rest.mapM fun t => (Instant.parse t).map fun i => (t, i)).bind fun pairs =>
        if pairs.all (·.2.absolute == i.absolute) then some ((text, i) :: pairs) else none := by
    rw [instants?, List.mapM_cons]
    cases Instant.parse text with
    | none => rfl
    | some i =>
      cases rest.mapM fun t => (Instant.parse t).map fun i => (t, i) with
      | none => rfl
      | some pairs => exact congrArg (fun kept => if kept = true then _ else none) (same_kind (text, i) pairs)
  rw [latest?, read]
  cases Instant.parse text with
  | none => rfl
  | some i =>
    rw [Option.bind_some, Option.bind_some, scan_eq]
    cases rest.mapM fun t => (Instant.parse t).map fun i => (t, i) with
    | none => rfl
    | some pairs =>
      rw [Option.bind_some, Option.bind_some]
      cases pairs.all (·.2.absolute == i.absolute) with
      | true => simp [firstGreatest]
      | false => rfl

end Event
end Latest

section Counts

-- The first label that is not empty, if there is one.
inductive FirstLabel : List Event → String → Prop where
  | none : (∀ e ∈ events, e.nodeLabel = "") → FirstLabel events ""
  | given : (∀ e ∈ before, e.nodeLabel = "") → e.nodeLabel ≠ "" → FirstLabel (before ++ e :: after) e.nodeLabel

-- What a row tells of a log, for the node that it is about.
structure Activity.Tells (a : Activity) (events : List Event) : Prop where
  successes : a.successes = events.countP fun e => e.nodeId == a.nodeId && e.status == .success
  warnings : a.warnings = events.countP fun e => e.nodeId == a.nodeId && e.status == .warning
  errors : a.errors = events.countP fun e => e.nodeId == a.nodeId && e.status == .error
  label : FirstLabel (events.filter (·.nodeId == a.nodeId)) a.nodeLabel

structure Summary.Counts (events : List Event) (s : Summary) : Prop where
  total : s.total = events.length
  successes : s.successes = events.countP (·.status == .success)
  warnings : s.warnings = events.countP (·.status == .warning)
  errors : s.errors = events.countP (·.status == .error)
  adds : s.successes + s.warnings + s.errors = s.total
  once : (s.byNode.map Activity.nodeId).Nodup
  nodes : ∀ key, key ∈ s.byNode.map Activity.nodeId ↔ key ∈ events.map Event.nodeId
  rows : ∀ a ∈ s.byNode, a.Tells events
  totals : (s.byNode.map Activity.total).sum = s.total
  parts : (s.byNode.map Activity.successes).sum = s.successes ∧ (s.byNode.map Activity.warnings).sum = s.warnings ∧
    (s.byNode.map Activity.errors).sum = s.errors
  order : s.byNode.Pairwise fun a b => b.errors < a.errors ∨ b.errors = a.errors ∧ a.nodeId < b.nodeId
  last : Latest (events.map Event.timestamp) s.lastExecution

namespace Event

theorem labelOf_first (events : List Event) : FirstLabel events (labelOf events) := by
  cases found : (events.map Event.nodeLabel).find? (· != "") with
  | none =>
    have empty : labelOf events = "" := by rw [labelOf, found]; rfl
    rw [empty]
    refine .none fun e mem => ?_
    simpa using List.find?_eq_none.mp found _ (List.mem_map_of_mem mem)
  | some label =>
    have chosen : labelOf events = label := by rw [labelOf, found]; rfl
    rw [List.find?_map] at found
    obtain ⟨e, first, rfl⟩ := Option.map_eq_some_iff.mp found
    obtain ⟨given, before, after, rfl, empty⟩ := List.find?_eq_some_iff_append.mp first
    rw [chosen]
    exact .given (fun x mem => by simpa using empty x mem) (by simpa using given)

theorem countOf_own (status : EventStatus) (events : List Event) (key : String) :
    countOf status (events.filter (·.nodeId == key)) = events.countP fun e => e.nodeId == key && e.status == status := by
  rw [countOf, List.filter_filter, List.countP_eq_length_filter]
  exact congrArg List.length (List.filter_congr fun _ _ => Bool.and_comm _ _)

theorem activity_tells (events : List Event) (key : String) : (activity events key).Tells events :=
  ⟨countOf_own .success events key, countOf_own .warning events key, countOf_own .error events key, labelOf_first _⟩

end Event

namespace Activity

-- What a row is sorted by.
def rank (a : Activity) : Lex (Natᵒᵈ × String) := toLex (OrderDual.toDual a.errors, a.nodeId)

theorem before_rank (a b : Activity) : a.before b = decide (a.rank < b.rank) := by
  rw [Bool.eq_iff_iff, before, rank, rank]
  simp only [Bool.or_eq_true, Bool.and_eq_true, decide_eq_true_eq, beq_iff_eq, Prod.Lex.toLex_lt_toLex,
    OrderDual.toDual_lt_toDual, OrderDual.toDual_inj]

theorem compares_before : Sort.Compares Activity.before := by
  have ranked := Sort.compares_rank rank
  rw [← funext fun a => funext fun b => before_rank a b] at ranked
  exact ranked

theorem rank_le {a b : Activity} (behind : b.before a = false) : a.rank ≤ b.rank := by
  rw [before_rank] at behind
  exact not_lt.mp (of_decide_eq_false behind)

theorem before_order {a b : Activity} (behind : b.before a = false) (apart : a.nodeId ≠ b.nodeId) :
    b.errors < a.errors ∨ b.errors = a.errors ∧ a.nodeId < b.nodeId := by
  rcases Prod.Lex.toLex_le_toLex.mp (rank_le behind) with fewer | ⟨tied, ordered⟩
  · exact .inl fewer
  · exact .inr ⟨tied.symm, lt_of_le_of_ne ordered apart⟩

end Activity

namespace Event

theorem byNode_perm (events : List Event) : (summarize events).byNode.Perm (rows events) := Sort.sort_perm _ _

theorem sum_byNode {count : Activity → Nat} {weight : Event → Nat} (start : ∀ key, count (.blank key) = 0)
    (grows : ∀ a e, count (a.add e) = count a + weight e) (events : List Event) :
    ((summarize events).byNode.map count).sum = (events.map weight).sum :=
  ((byNode_perm events).map count).sum_nat.trans (sum_rows start grows events)

theorem countOf_countP (status : EventStatus) (events : List Event) :
    countOf status events = events.countP (·.status == status) := List.countP_eq_length_filter.symm

theorem total_add (a : Activity) (e : Event) : (a.add e).total = a.total + 1 := by
  unfold Activity.total Activity.add
  cases e.status <;> simp only [EventStatus.weight, reduceCtorEq, ite_true, ite_false] <;> omega

theorem summarize_counts (events : List Event) : (summarize events).Counts events where
  total := rfl
  successes := countOf_countP .success events
  warnings := countOf_countP .warning events
  errors := countOf_countP .error events
  adds := counts_add events
  once := ((byNode_perm events).map Activity.nodeId).nodup_iff.mpr (rows_nodup events)
  nodes _ := ((byNode_perm events).map Activity.nodeId).mem_iff.trans mem_ids_rows
  rows a mem := by
    obtain ⟨key, _, rfl⟩ := List.mem_map.mp ((byNode_perm events).mem_iff.mp mem)
    exact activity_tells events key
  totals := by
    have sum : ((summarize events).byNode.map Activity.total).sum = (events.map fun _ => 1).sum :=
      sum_byNode (fun _ => rfl) total_add events
    rw [sum, List.map_const', List.sum_replicate_nat, Nat.mul_one]
    rfl
  parts := by
    refine ⟨?_, ?_, ?_⟩
    · exact (sum_byNode (fun _ => rfl) (fun _ _ => rfl) events).trans (countOf_sum .success events)
    · exact (sum_byNode (fun _ => rfl) (fun _ _ => rfl) events).trans (countOf_sum .warning events)
    · exact (sum_byNode (fun _ => rfl) (fun _ _ => rfl) events).trans (countOf_sum .error events)
  order := by
    have once := ((byNode_perm events).map Activity.nodeId).nodup_iff.mpr (rows_nodup events)
    have ordered := Sort.sort_ordered Activity.compares_before (rows events)
    exact (ordered.and (List.pairwise_map.mp once)).imp fun ⟨behind, apart⟩ => Activity.before_order behind apart
  last := latest?_latest _

end Event

-- The summary without what the order of the log may decide.
def Summary.bare (s : Summary) : Summary :=
  { s with lastExecution := none, byNode := s.byNode.map Activity.unlabeled }

namespace Event

variable {events events' : List Event}

theorem countOf_perm (status : EventStatus) (perm : events.Perm events') :
    countOf status events = countOf status events' := (perm.filter _).length_eq

theorem unlabeled_perm (perm : events.Perm events') (key : String) :
    (activity events key).unlabeled = (activity events' key).unlabeled := by
  have own := perm.filter (·.nodeId == key)
  simp only [activity, Activity.unlabeled, countOf_perm _ own]

-- Without labels rows have no ties: each is about another node.
theorem byNode_unlabeled (perm : events.Perm events') :
    (summarize events).byNode.map Activity.unlabeled = (summarize events').byNode.map Activity.unlabeled := by
  have nodes : (events.map Event.nodeId).eraseDups.Perm (events'.map Event.nodeId).eraseDups := by
    apply (List.perm_ext_iff_of_nodup (eraseDups_nodup _) (eraseDups_nodup _)).mpr
    intro key
    rw [List.mem_eraseDups, List.mem_eraseDups, (perm.map Event.nodeId).mem_iff]
  have same : (rows events').map Activity.unlabeled =
      (events'.map Event.nodeId).eraseDups.map fun key => (activity events key).unlabeled := by
    rw [rows, List.map_map]
    exact List.map_congr_left fun key _ => (unlabeled_perm perm key).symm
  have rearranged : ((rows events).map Activity.unlabeled).Perm ((rows events').map Activity.unlabeled) := by
    rw [same, rows, List.map_map]
    exact nodes.map _
  have kept : ∀ a b : Activity, a.unlabeled.before b.unlabeled = a.before b := fun _ _ => rfl
  have sorted : ∀ log : List Event, (summarize log).byNode.map Activity.unlabeled =
      Sort.sort Activity.before ((rows log).map Activity.unlabeled) := fun log =>
    (Sort.sort_map Activity.unlabeled kept (rows log)).symm
  rw [sorted, sorted]
  refine Sort.sort_eq_of_perm Activity.compares_before rearranged fun a mem b mem' behind before => ?_
  obtain ⟨_, among, rfl⟩ := List.mem_map.mp mem
  obtain ⟨_, among', rfl⟩ := List.mem_map.mp mem'
  obtain ⟨key, _, rfl⟩ := List.mem_map.mp among
  obtain ⟨key', _, rfl⟩ := List.mem_map.mp among'
  have tied : Activity.rank _ = Activity.rank _ := le_antisymm (Activity.rank_le before) (Activity.rank_le behind)
  have one : key = key' := congrArg (fun rank => (ofLex rank).2) tied
  rw [one]

theorem bare_perm (perm : events.Perm events') : (summarize events).bare = (summarize events').bare := by
  have errors := countOf_perm .error perm
  rw [Summary.bare, Summary.bare, byNode_unlabeled perm]
  simp only [summarize, countOf_perm _ perm, perm.length_eq, perm.isEmpty_eq]

-- Two reports of one instant, under two labels.
def visits : List Event :=
  let visit (id nodeId label timestamp : String) (status : EventStatus) : Event :=
    ⟨id, none, nodeId, label, timestamp, status, "", none⟩
  [visit "e1" "book" "Book" "2024-05-01T09:00:00Z" .warning, visit "e2" "ask" "" "2024-05-01T08:00:00Z" .success,
    visit "e3" "ask" "Ask" "2024-05-01T10:00:00Z" .error, visit "e4" "ask" "Asked" "2024-05-01T12:00:00+02:00" .success]

end Event
end Counts
end Orchestration
