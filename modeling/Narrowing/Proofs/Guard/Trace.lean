import Mathlib.Data.List.Basic
import Narrowing.Proofs.Guard.Untraced
/-!
# What tracing records

To evaluate a guard on a value is to evaluate its parts, each on a value of its own, and then
to settle the guard's verdict.  `evaluations` lists all that is evaluated on the way, in the
order in which it finishes: the parts that are reached, and after them the guard.

The record of an evaluation follows this list (`events_check`).  A traced guard adds its one
event where it stands in the list, that is right after the events of what it wraps, a
predicate adds what it observed, and no other guard adds anything.
-/

namespace Narrowing

namespace Guard

open Logged (upTo)

variable {p : Predicates}

/-! ### Traced guards -/

lemma events_narrow (g : Guard) (v : Value Guard) :
    (narrow p g v).events = (check p g v).events := by
  rw [← isSome_narrow g v, Logged.events_map]

lemma isSome_result_narrow (g : Guard) (v : Value Guard) :
    (narrow p g v).result.isSome = (check p g v).result := by
  rw [← isSome_narrow g v, Logged.result_map]

/-- A traced guard has the verdict of what it wraps and adds one event to its record. -/
lemma check_traced (name : String) (g : Guard) (v : Value Guard) :
    check p (.traced name g) v =
      ⟨(check p g v).result,
        (check p g v).events ++ [.evaluated name v.typeOf (check p g v).result]⟩ := by
  refine Logged.ext ?_ ?_
  · simp [check, traceResult, isSome_result_narrow]
  · simp [check, traceResult, Logged.record, isSome_result_narrow, events_narrow]

lemma narrow_traced (name : String) (g : Guard) (v : Value Guard) :
    narrow p (.traced name g) v =
      ⟨(narrow p g v).result,
        (narrow p g v).events ++ [.evaluated name v.typeOf (check p g v).result]⟩ := by
  refine Logged.ext rfl ?_
  simp [narrow, traceResult, Logged.record, isSome_result_narrow]

/-! ### The evaluations of the parts -/

/-- The fields of a shape up to the first that is absent, each with its value. -/
def presentParts (v : Value Guard) : List (Key × Guard) → List (Guard × Value Guard)
  | [] => []
  | (key, guard) :: rest =>
    match v.get? key with
    | some field => (guard, field) :: presentParts v rest
    | none => []

/-- The parts of a guard in the order in which they are evaluated, each with the value that
it is evaluated on. -/
def parts : Guard → Value Guard → List (Guard × Value Guard)
  | hasWith key guard, v =>
    match v.isNullish, v.get? key with
    | false, some field => [(guard, field)]
    | _, _ => []
  | isLike shape, v =>
    match v with
    | .object _ => presentParts v shape
    | _ => []
  | isSimilarTo shape, v =>
    match v with
    | .object _ => shape.map fun field => (field.2, (v.get? field.1).getD .undefined)
    | _ => []
  | isArrayOf element, v => (v.elements?.getD []).map fun w => (element, w)
  | isRecordOf field, v => (v.record?.getD []).map fun entry => (field, entry.2)
  | anyOf members, v => members.map fun g => (g, v)
  | allOf members, v => members.map fun g => (g, v)
  | anyOfList members, v => members.map fun g => (g, v)
  | allOfList members, v => members.map fun g => (g, v)
  | merged first second, v => [(first, v), (second, v)]
  | not guard, v => [(guard, v)]
  | erased guard, v => [(guard, v)]
  | traced _ guard, v => [(guard, v)]
  | _, _ => []

/-- The verdict of a part that settles the verdict of the guard. -/
def settling : Guard → Bool
  | anyOf _ => true
  | anyOfList _ => true
  | merged .. => true
  | _ => false

/-- The parts that are reached: those up to the first that settles the verdict. -/
def reached (p : Predicates) (g : Guard) (v : Value Guard) : List (Guard × Value Guard) :=
  (parts g v).take
    ((parts g v).findIdx (fun part => (check p part.1 part.2).result == settling g) + 1)

/-- What a guard records itself, beside what its parts record. -/
def ownEvents (p : Predicates) : Guard → Value Guard → List Event
  | traced name guard, v => [.evaluated name v.typeOf (check p guard v).result]
  | predicate index, v => (p index v).events
  | _, _ => []

lemma fst_mem_fields_of_mem_presentParts {v : Value Guard} {shape : List (Key × Guard)}
    {part : Guard × Value Guard} (h : part ∈ presentParts v shape) :
    part.1 ∈ shape.map Prod.snd := by
  induction shape with
  | nil => cases h
  | cons field rest ih =>
    rw [presentParts] at h
    split at h
    · rcases List.mem_cons.1 h with rfl | hrest
      · exact List.mem_cons_self
      · exact List.mem_cons_of_mem _ (ih hrest)
    · cases h

lemma fst_mem_children_of_mem_parts {g : Guard} {v : Value Guard} {part : Guard × Value Guard}
    (h : part ∈ parts g v) : part.1 ∈ g.children := by
  cases g with
  | hasWith key guard =>
    simp only [parts] at h
    split at h
    · simp [children, List.mem_singleton.1 h]
    · cases h
  | isLike shape =>
    cases v with
    | object o => exact fst_mem_fields_of_mem_presentParts h
    | _ => cases h
  | isSimilarTo shape =>
    cases v with
    | object o =>
      obtain ⟨field, hfield, rfl⟩ := List.mem_map.1 h
      exact List.mem_map_of_mem hfield
    | _ => cases h
  | isArrayOf element =>
    obtain ⟨w, -, rfl⟩ := List.mem_map.1 h
    exact List.mem_singleton_self _
  | isRecordOf field =>
    obtain ⟨entry, -, rfl⟩ := List.mem_map.1 h
    exact List.mem_singleton_self _
  | anyOf members | allOf members | anyOfList members | allOfList members =>
    obtain ⟨g, hg, rfl⟩ := List.mem_map.1 h
    exact hg
  | merged first second =>
    simp only [parts, List.mem_cons, List.not_mem_nil, or_false] at h
    rcases h with rfl | rfl <;> simp [children]
  | not guard | erased guard | traced name guard =>
    simp [children, List.mem_singleton.1 h]
  | _ => cases h

/-- All that is evaluated when a guard is evaluated on a value, in the order in which it
finishes. -/
def evaluations (p : Predicates) (g : Guard) (v : Value Guard) : List (Guard × Value Guard) :=
  ((reached p g v).attach.flatMap fun part => evaluations p part.1.1 part.1.2) ++ [(g, v)]
termination_by sizeOf g
decreasing_by
  exact sizeOf_lt_of_mem_children
    (fst_mem_children_of_mem_parts (List.mem_of_mem_take part.2))

lemma evaluations_eq (p : Predicates) (g : Guard) (v : Value Guard) :
    evaluations p g v =
      ((reached p g v).flatMap fun part => evaluations p part.1 part.2) ++ [(g, v)] := by
  rw [evaluations, List.flatMap_subtype (g := fun part => evaluations p part.1 part.2)
    (fun _ _ => rfl), List.unattach_attach]

/-! ### The record follows the evaluations -/

lemma map_check_reached (p : Predicates) (g : Guard) (v : Value Guard) :
    (reached p g v).map (fun part => check p part.1 part.2) =
      upTo (settling g) ((parts g v).map fun part => check p part.1 part.2) := by
  rw [reached, upTo, List.map_take, List.findIdx_map]
  rfl

lemma upTo_singleton (verdict : Bool) (e : Logged Bool) : upTo verdict [e] = [e] := by
  simp [Logged.upTo_cons]

lemma events_checkPresent (shape : List (Key × Guard)) (v : Value Guard) :
    (checkPresent p shape v).events =
      (upTo false ((presentParts v shape).map fun part => check p part.1 part.2)).flatMap
        Logged.events := by
  induction shape with
  | nil => rfl
  | cons field rest ih =>
    rw [checkPresent, presentParts]
    cases v.get? field.1 with
    | none => rfl
    | some w =>
      cases h : (check p field.2 w).result with
      | true => simp [h, Logged.upTo_cons, ih]
      | false => simp [h, Logged.upTo_cons]

/-- What happens when a guard is evaluated is what happens in the parts that are reached, and
then what the guard records itself. -/
lemma events_check_eq_reached (g : Guard) (v : Value Guard) :
    (check p g v).events =
      ((reached p g v).flatMap fun part => (check p part.1 part.2).events) ++
        ownEvents p g v := by
  have hparts : ((reached p g v).flatMap fun part => (check p part.1 part.2).events) =
      (upTo (settling g) ((parts g v).map fun part => check p part.1 part.2)).flatMap
        Logged.events := by
    rw [← map_check_reached, List.flatMap_map]
  rw [hparts]
  cases g with
  | hasWith key guard =>
    simp only [check, parts, ownEvents, List.append_nil]
    cases v.isNullish with
    | true => rfl
    | false => cases v.get? key <;> simp [upTo_singleton]
  | isLike shape =>
    cases v with
    | object o => simp [check, events_checkPresent, parts, settling, ownEvents]
    | _ => rfl
  | isSimilarTo shape =>
    cases v with
    | object o =>
      have hall := (Logged.decidesAll_all (testField (check p) (.object o)) shape).events_eq
      simp [check_isSimilarTo, hall, parts, settling, ownEvents, Function.comp_def]
      rfl
    | _ => rfl
  | isArrayOf element =>
    simp only [check, parts, settling, ownEvents, List.append_nil]
    cases v.elements? with
    | none => rfl
    | some elements =>
      simp [(Logged.decidesAll_all (check p element) elements).events_eq, Function.comp_def]
  | isRecordOf field =>
    simp only [check, parts, settling, ownEvents, List.append_nil]
    cases v.record? with
    | none => rfl
    | some fields =>
      simp [(Logged.decidesAll_all (fun entry => check p field entry.2) fields).events_eq,
        Function.comp_def]
  | anyOf members =>
    simp [check_anyOf, (Logged.decidesSome_any _ members).events_eq, parts, settling,
      ownEvents, Function.comp_def]
  | anyOfList members =>
    simp [check_anyOfList, (Logged.decidesSome_any _ members).events_eq, parts, settling,
      ownEvents, Function.comp_def]
  | allOf members =>
    simp [check_allOf, (Logged.decidesAll_all _ members).events_eq, parts, settling,
      ownEvents, Function.comp_def]
  | allOfList members =>
    simp [check_allOfList, (Logged.decidesAll_all _ members).events_eq, parts, settling,
      ownEvents, Function.comp_def]
  | merged first second =>
    cases h : (check p first v).result with
    | true => simp [check, h, parts, settling, ownEvents, Logged.upTo_cons]
    | false => simp [check, h, parts, settling, ownEvents, Logged.upTo_cons]
  | not guard | erased guard => simp [check, parts, ownEvents, upTo_singleton]
  | traced name guard =>
    simp [check_traced, parts, ownEvents, upTo_singleton]
  | predicate index => simp [check, parts, ownEvents]
  -- a guard without parts records nothing
  | _ => rfl

lemma events_check (g : Guard) (v : Value Guard) :
    (check p g v).events =
      (evaluations p g v).flatMap fun node => ownEvents p node.1 node.2 := by
  induction g using children_induction generalizing v with
  | step g ih =>
    rw [events_check_eq_reached, evaluations_eq, List.flatMap_append, List.flatMap_assoc]
    congr 1
    · refine List.flatMap_congr fun part hpart => ?_
      exact ih _ (fst_mem_children_of_mem_parts (List.mem_of_mem_take hpart)) _
    · simp

/-! ### Transparency -/

/-- What is wrapped is evaluated once, on the same value, before the wrapper finishes. -/
lemma evaluations_traced (name : String) (g : Guard) (v : Value Guard) :
    evaluations p (.traced name g) v = evaluations p g v ++ [(.traced name g, v)] := by
  have hreached : reached p (.traced name g) v = [(g, v)] := by simp [reached, parts]
  rw [evaluations_eq, hreached, List.flatMap_singleton]

/-- **Tracing is transparent.**  Taking the wrappers off a guard at every depth leaves its
view, its verdict and its record, up to the events of the wrappers.  Those stand in the record
where the evaluations of the wrappers finish: each evaluation of a traced guard adds one
event, after all that is recorded for the guard in it, and the event has the verdict of that
guard and the type of the value that both were given. -/
theorem tracing_is_transparent (p : Predicates) (g : Guard) (v : Value Guard) :
    (narrow p.untraced g.untraced v = (narrow p g v).untraced ∧
      check p.untraced g.untraced v = (check p g v).untraced) ∧
    (p.Quiet → p.untraced = p) ∧
    ((narrow p g v).events =
        (evaluations p g v).flatMap (fun node => ownEvents p node.1 node.2) ∧
      (check p g v).events =
        (evaluations p g v).flatMap fun node => ownEvents p node.1 node.2) ∧
    ∀ name,
      evaluations p (.traced name g) v = evaluations p g v ++ [(.traced name g, v)] ∧
      narrow p (.traced name g) v =
        ⟨(narrow p g v).result,
          (narrow p g v).events ++ [.evaluated name v.typeOf (check p g v).result]⟩ ∧
      check p (.traced name g) v =
        ⟨(check p g v).result,
          (check p g v).events ++ [.evaluated name v.typeOf (check p g v).result]⟩ := by
  have htransparent : Transparent p g := transparent p g
  refine ⟨⟨htransparent v, htransparent.check v⟩, Predicates.Quiet.untraced_eq, ⟨?_, ?_⟩, ?_⟩
  · rw [events_narrow]
    exact events_check g v
  · exact events_check g v
  · intro name
    exact ⟨evaluations_traced name g v, narrow_traced name g v, check_traced name g v⟩

/-- Nothing is traced inside predicates that record nothing, so that only the two wrappers are
missing from the record, the inner one first. -/
theorem tracing_is_transparent_of_nested :
    let p : Predicates := fun _ _ => pure true
    let g : Guard := .traced "outer" (.not (.traced "inner" (.predicate 0)))
    check p g .null =
        ⟨false, [.evaluated "inner" "object" true, .evaluated "outer" "object" false]⟩ ∧
      g.untraced = .not (.predicate 0) ∧ check p g.untraced .null = ⟨false, []⟩ := by
  intro p g
  obtain ⟨⟨-, hcheck⟩, hquiet, -⟩ := tracing_is_transparent p g .null
  have hp : p.untraced = p := hquiet fun _ _ e he => nomatch he
  rw [hp] at hcheck
  exact ⟨rfl, rfl, hcheck⟩

end Guard

end Narrowing
