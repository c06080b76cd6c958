import CatalogSearch.Normalizer.Registry
import Mathlib.Data.List.Induction

/-!
Registries as they are used: steps that register, look up and list, one after the other. What a
registry answers depends on nothing but the registrations that were not refused before. Each of them
gave a name that was not taken, so the function of a name is that of its first registration, and a
step that is refused might as well not have been made.
-/

namespace CatalogSearch.NormalizerRegistry

/-- A name with the function that it is given. -/
abbrev Registration := String × (String → Value)

/-- What can be asked of a registry. -/
inductive Step where
  | register (name : String) (f : String → Value)
  | contains (name : String)
  | normalize (name value : String)
  | names

inductive Answer where
  | registered
  | refused (err : RegistryError)
  | contained (b : Bool)
  | normalized (result : Option Value)
  | listed (names : List String)
  deriving DecidableEq, Repr

/-- The answer to a step, and the registry after it. -/
def respond (r : NormalizerRegistry) : Step → Answer × NormalizerRegistry
  | .register name f =>
    match r.register name f with
    | .ok r' => (.registered, r')
    | .error err => (.refused err, r)
  | .contains name => (.contained (r.contains name), r)
  | .normalize name value => (.normalized (r.normalize? name value), r)
  | .names => (.listed r.names, r)

/-- The answers to steps that are made one after the other. -/
def answers (r : NormalizerRegistry) : List Step → List Answer
  | [] => []
  | step :: steps => (r.respond step).1 :: (r.respond step).2.answers steps

def after (r : NormalizerRegistry) (steps : List Step) : NormalizerRegistry :=
  steps.foldl (fun r step => (r.respond step).2) r

/-- The registration that a step makes, if its answer says so. -/
def granted : Step × Answer → Option Registration
  | (.register name f, .registered) => some (name, f)
  | _ => none

/-- The registrations among steps that succeed, in order. -/
def registrations (r : NormalizerRegistry) (steps : List Step) : List Registration :=
  (steps.zip (r.answers steps)).filterMap granted

/-- The answer to a step with others before and after it. -/
def answerAt (r : NormalizerRegistry) (before : List Step) (step : Step) (after : List Step) :
    Option Answer :=
  (r.answers (before ++ step :: after))[before.length]?

/-! ### What has been registered -/

/-- The registry holds what has been registered, each name once. -/
structure Holds (r : NormalizerRegistry) (log : List Registration) : Prop where
  nodup : (log.map Prod.fst).Nodup
  functions_eq : r.functions = .ofList log

theorem isSome_lookup_iff {log : List Registration} {name : String} :
    (log.lookup name).isSome = true ↔ name ∈ log.map Prod.fst := by
  rw [List.lookup_isSome_iff, List.mem_map]
  refine exists_congr fun entry => and_congr_right fun _ => ?_
  rw [beq_iff_eq, eq_comm]

namespace Holds

variable {r : NormalizerRegistry} {log : List Registration} (h : Holds r log)

include h

theorem get?_eq (name : String) : r.functions.get? name = log.lookup name := by
  rw [h.functions_eq, NameTable.get?_ofList h.nodup]

theorem contains_eq (name : String) : r.contains name = (log.lookup name).isSome := by
  rw [contains, NameTable.contains, h.get?_eq]

theorem normalize?_eq (name value : String) :
    r.normalize? name value = (log.lookup name).map fun f => f value := by
  rw [normalize?, h.get?_eq]

/-- All names are listed, in order and once. -/
theorem names_perm : r.names.Perm (log.map Prod.fst) := by
  apply (List.perm_ext_iff_of_nodup r.functions.names_nodup h.nodup).2
  intro name
  rw [NameTable.mem_names_iff, h.get?_eq, isSome_lookup_iff]

theorem register_of_mem {name : String} (hname : name ∈ log.map Prod.fst) (f : String → Value) :
    r.register name f = .error (.duplicateNormalizer name) := by
  rw [register, h.contains_eq, if_pos (isSome_lookup_iff.2 hname)]

theorem register_of_notMem {name : String} (hname : name ∉ log.map Prod.fst)
    (f : String → Value) :
    ∃ r', r.register name f = .ok r' ∧ Holds r' (log ++ [(name, f)]) := by
  refine ⟨⟨r.functions.insert name f⟩, ?_, ?_, ?_⟩
  · rw [register, h.contains_eq, if_neg (isSome_lookup_iff.not.2 hname)]
  · rw [List.map_append, List.map_singleton, (List.perm_append_singleton _ _).nodup_iff]
    exact List.nodup_cons.2 ⟨hname, h.nodup⟩
  · rw [h.functions_eq, NameTable.ofList, NameTable.ofList, List.foldl_append]
    rfl

/-! ### One step after the other -/

/-- Only a registration that succeeds changes what there is. -/
theorem respond (step : Step) :
    Holds (r.respond step).2 (log ++ (granted (step, (r.respond step).1)).toList) := by
  cases step with
  | register name f =>
      rw [NormalizerRegistry.respond]
      by_cases hname : name ∈ log.map Prod.fst
      · rw [h.register_of_mem hname]
        simpa [granted] using h
      · obtain ⟨r', hr', hholds⟩ := h.register_of_notMem hname f
        rw [hr']
        exact hholds
  | contains name => simpa [NormalizerRegistry.respond, granted] using h
  | normalize name value => simpa [NormalizerRegistry.respond, granted] using h
  | names => simpa [NormalizerRegistry.respond, granted] using h

end Holds

variable (r : NormalizerRegistry)

theorem registrations_cons (step : Step) (steps : List Step) :
    r.registrations (step :: steps) =
      (granted (step, (r.respond step).1)).toList ++ (r.respond step).2.registrations steps := by
  rw [registrations, registrations, answers, List.zip_cons_cons, List.filterMap_cons]
  cases granted (step, (r.respond step).1) <;> rfl

/-- After a run there is what there was and what the run has registered. -/
theorem Holds.after {r : NormalizerRegistry} {log : List Registration} (h : Holds r log)
    (steps : List Step) : Holds (r.after steps) (log ++ r.registrations steps) := by
  induction steps generalizing r log with
  | nil =>
      rw [registrations, answers, List.zip_nil_right, List.filterMap_nil, List.append_nil]
      exact h
  | cons step steps ih =>
      rw [registrations_cons, ← List.append_assoc]
      exact ih (h.respond step)

theorem length_answers (steps : List Step) : (r.answers steps).length = steps.length := by
  induction steps generalizing r with
  | nil => rfl
  | cons step steps ih => rw [answers, List.length_cons, ih, List.length_cons]

theorem after_append (before later : List Step) :
    r.after (before ++ later) = (r.after before).after later :=
  List.foldl_append

theorem answers_append (before later : List Step) :
    r.answers (before ++ later) = r.answers before ++ (r.after before).answers later := by
  induction before generalizing r with
  | nil => rfl
  | cons step before ih =>
      rw [List.cons_append, answers, answers, ih, List.cons_append]
      rfl

theorem answerAt_eq (before : List Step) (step : Step) (later : List Step) :
    r.answerAt before step later = some ((r.after before).respond step).1 := by
  rw [answerAt, answers_append, ← r.length_answers before,
    List.getElem?_append_right (Nat.le_refl _), Nat.sub_self]
  rfl

/-- A step that leaves the registry as it was leaves no trace but its own answer. -/
theorem eraseIdx_answers {before : List Step} {step : Step}
    (h : ((r.after before).respond step).2 = r.after before) (later : List Step) :
    (r.answers (before ++ step :: later)).eraseIdx before.length = r.answers (before ++ later) := by
  rw [answers_append, answers_append, ← r.length_answers before,
    List.eraseIdx_append_of_length_le (Nat.le_refl _), Nat.sub_self, answers, h]
  rfl

theorem respond_of_refused {step : Step} {err : RegistryError}
    (h : (r.respond step).1 = .refused err) : (r.respond step).2 = r := by
  cases step with
  | register name f =>
      rw [respond] at h ⊢
      cases hr : r.register name f with
      | ok r' =>
          rw [hr] at h
          cases h
      | error err => rfl
  | contains name => cases h
  | normalize name value => cases h
  | names => cases h

/-! ### Where a run starts -/

/-- A registry to start with. -/
inductive Origin where
  | empty
  | standard
  deriving DecidableEq, Repr

namespace Origin

def registry : Origin → NormalizerRegistry
  | empty => .empty
  | standard => .standard

/-- The registrations that an origin comes with. -/
def given : Origin → List Registration
  | empty => []
  | standard => builtIn

/-- All that has been registered, by the origin and by steps that succeeded. -/
def registered (origin : Origin) (before : List Step) : List Registration :=
  origin.given ++ origin.registry.registrations before

theorem holds (origin : Origin) : Holds origin.registry origin.given := by
  cases origin with
  | empty => exact ⟨List.nodup_nil, rfl⟩
  | standard => exact ⟨by decide, rfl⟩

theorem holds_after (origin : Origin) (before : List Step) :
    Holds (origin.registry.after before) (origin.registered before) :=
  origin.holds.after before

end Origin

/-- The step that makes a registration. -/
def Step.ofRegistration (entry : Registration) : Step := .register entry.1 entry.2

/-- Registrations of different names succeed one after the other, by induction from the last. -/
theorem answers_of_nodup {log : List Registration} (h : (log.map Prod.fst).Nodup) :
    empty.answers (log.map .ofRegistration) = List.replicate log.length .registered ∧
      empty.after (log.map .ofRegistration) = ⟨.ofList log⟩ := by
  induction log using List.reverseRecOn with
  | nil => exact ⟨rfl, rfl⟩
  | append_singleton log entry ih =>
      rw [List.map_append, List.map_singleton, (List.perm_append_singleton _ _).nodup_iff,
        List.nodup_cons] at h
      obtain ⟨hanswers, hafter⟩ := ih h.2
      have hholds : Holds (empty.after (log.map .ofRegistration)) log := ⟨h.2, by rw [hafter]⟩
      obtain ⟨r', hr', hholds'⟩ := hholds.register_of_notMem h.1 entry.2
      have hrespond : (empty.after (log.map .ofRegistration)).respond (.ofRegistration entry) =
          (.registered, r') := by
        rw [Step.ofRegistration, respond, hr']
      constructor
      · rw [List.map_append, List.map_singleton, answers_append, hanswers, answers, hrespond,
          List.length_append, List.length_singleton, List.replicate_succ']
        rfl
      · rw [List.map_append, List.map_singleton, after_append]
        show ((empty.after (log.map .ofRegistration)).respond (.ofRegistration entry)).2 = _
        rw [hrespond]
        exact congrArg NormalizerRegistry.mk hholds'.functions_eq

/-- **A name keeps the function of its first registration.** Start from the empty registry or from
the standard one, which is what the registrations of its own functions make of the empty one. In any
run, a registration is refused as a duplicate exactly if its name has been registered before, and
otherwise succeeds. A step that is refused makes no difference to the other answers. A value is
normalized by the function of the first registration of the name that succeeded, and by none if none
did; a name is there exactly if values can be normalized by it. The names that are listed are all
that have been registered, in ascending order. -/
theorem answers_firstRegistration (origin : Origin) (before later : List Step) :
    (empty.answers (origin.given.map .ofRegistration) =
        List.replicate origin.given.length .registered ∧
      empty.after (origin.given.map .ofRegistration) = origin.registry) ∧
    (∀ name f,
      (origin.registry.answerAt before (.register name f) later =
          some (.refused (.duplicateNormalizer name)) ↔
        name ∈ (origin.registered before).map Prod.fst) ∧
      (origin.registry.answerAt before (.register name f) later = some .registered ↔
        name ∉ (origin.registered before).map Prod.fst)) ∧
    (∀ step err, origin.registry.answerAt before step later = some (.refused err) →
      (origin.registry.answers (before ++ step :: later)).eraseIdx before.length =
        origin.registry.answers (before ++ later)) ∧
    (∀ name value,
      origin.registry.answerAt before (.normalize name value) later =
          some (.normalized (((origin.registered before).lookup name).map fun f => f value)) ∧
      ((origin.registered before).lookup name = none ↔
        name ∉ (origin.registered before).map Prod.fst)) ∧
    (∀ name value, ∃ result,
      origin.registry.answerAt before (.normalize name value) later =
          some (.normalized result) ∧
        origin.registry.answerAt before (.contains name) later =
          some (.contained result.isSome)) ∧
    ∃ names, origin.registry.answerAt before .names later = some (.listed names) ∧
      names.Pairwise (· < ·) ∧ names.Perm ((origin.registered before).map Prod.fst) := by
  have hholds := origin.holds_after before
  simp only [answerAt_eq, Option.some.injEq]
  refine ⟨?_, fun name f => ?_, fun step err herr => ?_, fun name value => ⟨?_, ?_⟩,
    fun name value => ⟨_, rfl, ?_⟩, _, rfl, NameTable.names_ordered _, hholds.names_perm⟩
  · have hstart := answers_of_nodup origin.holds.nodup
    rwa [← origin.holds.functions_eq] at hstart
  · by_cases hname : name ∈ (origin.registered before).map Prod.fst
    · rw [respond, hholds.register_of_mem hname]
      simp [hname]
    · obtain ⟨r', hr', -⟩ := hholds.register_of_notMem hname f
      rw [respond, hr']
      simp [hname]
  · exact eraseIdx_answers _ (respond_of_refused _ herr) later
  · rw [respond, hholds.normalize?_eq]
  · rw [← isSome_lookup_iff, Option.not_isSome_iff_eq_none]
  · rw [respond, hholds.contains_eq, hholds.normalize?_eq, Option.isSome_map]

/-- The number of characters of a text. -/
def lengthOf (value : String) : Value := .long value.length

/-- A second function for ISBNs is refused, with nothing else changed: the first one answers before
and after, and the name registered in between is there. -/
theorem answers_firstRegistration_isbn :
    standard.answerAt [.register "length" lengthOf] (.register "isbn" lengthOf)
        [.normalize "isbn" "0-306-40615-2", .names] =
      some (.refused (.duplicateNormalizer "isbn")) ∧
    (standard.answers ([.register "length" lengthOf] ++ .register "isbn" lengthOf ::
        [.normalize "isbn" "0-306-40615-2", .names])).eraseIdx 1 =
      [.registered, .normalized (some (.text "9780306406157")),
        .listed ["call-number", "isbn", "lccn", "length", "lowercase", "oclc", "shelf-key"]] := by
  have htaken : standard.answerAt [.register "length" lengthOf] (.register "isbn" lengthOf)
      [.normalize "isbn" "0-306-40615-2", .names] =
        some (.refused (.duplicateNormalizer "isbn")) := by
    decide +kernel
  refine ⟨htaken, ?_⟩
  have herase := (answers_firstRegistration .standard [.register "length" lengthOf]
    [.normalize "isbn" "0-306-40615-2", .names]).2.2.1 (.register "isbn" lengthOf) _ htaken
  rw [Origin.registry] at herase
  refine herase.trans ?_
  decide +kernel

end CatalogSearch.NormalizerRegistry
