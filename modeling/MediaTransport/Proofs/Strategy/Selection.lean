/-
# MediaTransport.Proofs.Strategy.Selection -- the first candidate that builds

A registry is read as a table: the factory that stands under each name, with the calls that it
has had.  To try a name is to ask the table for an answer and to give the factory one call more
(`build_fst`, `table_build`); a name that nobody registered has an answer too, and no factory to
be called.

The answer to the n-th call of a factory may be anything, so that whatever else a factory looks
at is a matter of which answers it gives.

A selection is a list of such tries.  `Tried` says what they come to: each answers as the
factory of its name does after the calls of the tries before it, and nothing is called besides.
`tryAll` splits the candidates at the first that builds or tries them all (`Outcome`), with the
failures of the candidates before it in their order.

Which factories stand in a registry after a history of registrations and selections is told
from the history alone: under each name the one that was registered last, with one call more
for each time that it was tried since (`Stands`).
-/
import Mathlib.Data.List.Nodup
import Mathlib.Logic.Function.Basic
import MediaTransport.Proofs.Lookup
import MediaTransport.Strategy

namespace MediaTransport.Strategy

set_option autoImplicit false

variable {α : Type}

/-! ## Tables -/

/-- What stands under each name. -/
abbrev Table (α : Type) := String → Option (Factory α)

namespace Table

/-- What the factory of a name answers to its next call, or why there is none to call. -/
def answer (t : Table α) (name : String) : Except String α :=
  match t name with
  | none => .error (Registry.unregistered name)
  | some factory => factory.build factory.calls

/-- A table after names were tried, each factory once for each time that its name is among them. -/
def after (t : Table α) (tried : List String) : Table α := fun name =>
  (t name).map fun factory => { factory with calls := factory.calls + tried.count name }

variable (t : Table α)

@[simp] theorem after_nil : t.after [] = t := by
  funext name
  simp [after]

@[simp] theorem after_after (tried more : List String) :
    (t.after tried).after more = t.after (tried ++ more) := by
  funext name
  simp [after, Function.comp_def, Nat.add_assoc]

theorem after_congr {t u : Table α} {name : String} (same : t name = u name)
    (tried : List String) : t.after tried name = u.after tried name := by
  rw [after, after, same]

end Table

namespace Registry

/-- A registry as a table. -/
def table (r : Registry α) : Table α := fun name => List.lookup name r

variable (r : Registry α) (name : String)

theorem table_register (factory : Factory α) :
    (r.register name factory).table = Function.update r.table name (some factory) := by
  funext asked
  rw [table, register, Lookup.lookup_cons, Lookup.lookup_filter_ne, Function.update_apply]
  by_cases here : asked = name
  · rw [if_pos here, if_pos here]
  · rw [if_neg here, if_neg here, if_neg here, table]

theorem build_fst : (r.build name).1 = r.table.answer name := by
  unfold build Table.answer table
  cases List.lookup name r <;> rfl

theorem table_build : (r.build name).2.table = r.table.after [name] := by
  funext asked
  unfold build
  cases standing : List.lookup name r with
  | none =>
      by_cases here : asked = name
      · rw [here, Table.after, table, standing]
        rfl
      · simp [Table.after, table, Ne.symm here]
  | some factory =>
      -- The names stay, and the factory of each name is changed by what the name is.
      have changed : (fun entry : String × Factory α =>
            if entry.1 == name then (entry.1, { entry.2 with calls := entry.2.calls + 1 })
            else entry) = fun entry =>
          (entry.1, { entry.2 with calls := entry.2.calls + [name].count entry.1 }) := by
        funext entry
        by_cases here : entry.1 = name
        · simp [here]
        · simp [here, Ne.symm here]
      rw [changed]
      exact Lookup.lookup_map r asked fun key factory =>
        { factory with calls := factory.calls + [name].count key }

end Registry

/-! ## Tries -/

/-- A name that was tried, with the answer to it. -/
structure Try (α : Type) where
  name : String
  answer : Except String α

/-- A failed attempt is a try that was answered by its cause. -/
def Attempt.toTry (attempt : Attempt) : Try α :=
  ⟨attempt.name, .error attempt.cause⟩

/-- Tries one after the other, each of the registry that the one before it has left. -/
inductive Tries : Registry α → List (Try α) → Registry α → Prop
  | none (r : Registry α) : Tries r [] r
  | next {r later left : Registry α} {first : Try α} {rest : List (Try α)}
    (built : r.build first.name = (first.answer, later)) (others : Tries later rest left) :
    Tries r (first :: rest) left

/-- What tries of a registry come to. -/
structure Tried (r : Registry α) (tries : List (Try α)) (left : Registry α) : Prop where
  /-- They are made one after the other. -/
  inOrder : Tries r tries left
  /-- Each is answered by the factory of its name, as it stands after the tries before it. -/
  answered : ∀ before this rest, tries = before ++ this :: rest →
    this.answer = (r.table.after (before.map Try.name)).answer this.name
  /-- Each factory has had one call for each try of its name. -/
  counted : left.table = r.table.after (tries.map Try.name)

theorem table_of_build {r later : Registry α} {name : String} {answer : Except String α}
    (built : r.build name = (answer, later)) : later.table = r.table.after [name] := by
  rw [← r.table_build, built]

theorem Tries.tried {r left : Registry α} {tries : List (Try α)} (made : Tries r tries left) :
    Tried r tries left := by
  refine ⟨made, ?_, ?_⟩
  · intro before this rest split
    induction made generalizing before with
    | none r => simp at split
    | @next r later left first others built made ih =>
        cases before with
        | nil =>
            obtain ⟨rfl, rfl⟩ := List.cons.inj split
            rw [List.map_nil, Table.after_nil, ← r.build_fst, built]
        | cons tried before =>
            obtain ⟨rfl, others_split⟩ := List.cons.inj split
            rw [ih before others_split, table_of_build built, Table.after_after, List.map_cons,
              List.singleton_append]
  · induction made with
    | none r => rw [List.map_nil, Table.after_nil]
    | @next r later left first others built made ih =>
        rw [ih, table_of_build built, Table.after_after, List.map_cons, List.singleton_append]

/-! ## One selection -/

def Event.name : Event → String
  | .selected name _ => name
  | .unavailable attempt => attempt.name

/-- The names that a selection has tried, which it reports one by one. -/
def Selection.tried (s : Selection α) : List String :=
  s.events.map Event.name

/-- What becomes of candidates after some attempts have failed. -/
inductive Outcome (attempted : List String) (failures : List Attempt) (r : Registry α)
    (names : List String) : Selection α → Prop
  | chosen (more : List Attempt) {name : String} {value : α} {rest : List String}
    {left : Registry α} (split : names = more.map Attempt.name ++ name :: rest)
    (made : Tries r (more.map Attempt.toTry ++ [⟨name, .ok value⟩]) left) :
    Outcome attempted failures r names
      { result := .ok ⟨name, value, failures ++ more⟩
        registry := left
        events := more.map .unavailable ++ [.selected name (failures ++ more).length] }
  | exhausted (more : List Attempt) {left : Registry α} (all : names = more.map Attempt.name)
    (made : Tries r (more.map Attempt.toTry) left) :
    Outcome attempted failures r names
      { result := .error ⟨attempted, (failures ++ more).getLast?.map Attempt.cause⟩
        registry := left
        events := more.map .unavailable }

theorem tryAll_outcome (attempted names : List String) (failures : List Attempt)
    (r : Registry α) :
    Outcome attempted failures r names (tryAll attempted failures names r) := by
  induction names generalizing failures r with
  | nil =>
      have outcome : Outcome attempted failures r [] _ := .exhausted [] rfl (.none r)
      simpa [tryAll] using outcome
  | cons name rest ih =>
      rcases built : r.build name with ⟨answer, left⟩
      cases answer with
      | ok value =>
          have outcome : Outcome attempted failures r (name :: rest) _ :=
            .chosen [] rfl (.next built (.none left))
          simpa [tryAll, built] using outcome
      | error cause =>
          let failed : Attempt := ⟨name, cause⟩
          have later := ih (failures ++ [failed]) left
          simp only [tryAll, built]
          generalize tryAll attempted (failures ++ [failed]) rest left = s at later ⊢
          -- What is said of the later candidates holds of all of them, with one failure more.
          cases later with
          | chosen more split made =>
              have outcome : Outcome attempted failures r (name :: rest) _ :=
                .chosen (failed :: more) (congrArg (name :: ·) split) (.next built made)
              simpa using outcome
          | exhausted more all made =>
              have outcome : Outcome attempted failures r (name :: rest) _ :=
                .exhausted (failed :: more) (congrArg (name :: ·) all) (.next built made)
              simpa using outcome

/-- A selection from names takes the first of them that builds. -/
structure TakesFirst (r : Registry α) (names : List String) (s : Selection α) : Prop where
  /-- The candidates before the chosen one have failed, each for its own cause; it has built the
  value, and the candidates after it were not tried. -/
  chosen : ∀ selected, s.result = .ok selected → ∃ rest : List String,
    names = selected.failures.map Attempt.name ++ selected.name :: rest ∧
    Tried r (selected.failures.map Attempt.toTry ++ [⟨selected.name, .ok selected.value⟩])
      s.registry ∧
    s.events = selected.failures.map Event.unavailable ++
      [.selected selected.name selected.failures.length]
  /-- All candidates have failed, and the error names them with the cause of the last one. -/
  exhausted : ∀ unavailable, s.result = .error unavailable → ∃ failures : List Attempt,
    names = failures.map Attempt.name ∧
    Tried r (failures.map Attempt.toTry) s.registry ∧
    s.events = failures.map Event.unavailable ∧
    unavailable.attempted = names ∧
    unavailable.lastCause = failures.getLast?.map Attempt.cause ∧
    (unavailable.lastCause = none ↔ names = [])

theorem selectFrom_takesFirst (r : Registry α) (names : List String) :
    TakesFirst r names (selectFrom r names) := by
  have outcome := tryAll_outcome names names [] r
  rw [← selectFrom] at outcome
  generalize selectFrom r names = s at outcome
  cases outcome with
  | chosen failures split made =>
      refine ⟨fun selected taken => ?_, fun unavailable failed => nomatch failed⟩
      obtain rfl := Except.ok.inj taken
      exact ⟨_, split, made.tried, rfl⟩
  | exhausted failures all made =>
      refine ⟨fun selected taken => (nomatch taken), fun unavailable failed => ?_⟩
      obtain rfl := Except.error.inj failed
      refine ⟨failures, all, made.tried, rfl, rfl, rfl, ?_⟩
      simp [all]

/-- A name that is named again is tried again. -/
example :
    let busy : Factory Nat := ⟨fun call => if call = 0 then .error "busy" else .ok call, 0⟩
    let s := selectFrom [("a", busy)] ["a", "a", "a"]
    (s.result.toOption.map Selected.value, s.tried) = (some 1, ["a", "a"]) := by
  decide

/-- What is tried is the candidates up to some place, and a try is a call. -/
theorem TakesFirst.tried {r : Registry α} {names : List String} {s : Selection α}
    (takes : TakesFirst r names s) :
    s.tried <+: names ∧ s.registry.table = r.table.after s.tried := by
  cases result : s.result with
  | ok selected =>
      obtain ⟨rest, split, tried, reported⟩ := takes.chosen selected result
      have named : s.tried = selected.failures.map Attempt.name ++ [selected.name] := by
        simp [Selection.tried, reported, Event.name, Function.comp_def]
      refine ⟨⟨rest, by simp [named, split]⟩, ?_⟩
      rw [tried.counted, named]
      simp [Attempt.toTry, Function.comp_def]
  | error unavailable =>
      obtain ⟨failures, all, tried, reported, -⟩ := takes.exhausted unavailable result
      have named : s.tried = names := by
        simp [Selection.tried, reported, Event.name, Function.comp_def, all]
      refine ⟨named ▸ List.prefix_rfl, ?_⟩
      rw [tried.counted, named, all]
      simp [Attempt.toTry, Function.comp_def]

/-! ## Candidates without duplicates -/

theorem distinctFrom_nodup (seen names : List String) :
    (distinctFrom seen names).Nodup ∧ ∀ name ∈ distinctFrom seen names, name ∉ seen := by
  induction names generalizing seen with
  | nil => simp [distinctFrom]
  | cons first rest ih =>
      unfold distinctFrom
      by_cases known : first ∈ seen
      · rw [if_pos (by simpa using known)]
        exact ih seen
      · obtain ⟨distinct, fresh⟩ := ih (first :: seen)
        rw [if_neg (by simpa using known)]
        refine ⟨List.nodup_cons.2 ⟨fun again => ?_, distinct⟩, ?_⟩
        · exact fresh first again List.mem_cons_self
        · rintro name here
          rcases List.mem_cons.1 here with rfl | later
          · exact known
          · exact fun earlier => fresh name later (List.mem_cons_of_mem first earlier)

theorem candidates_nodup (choice : Option String) (fallbacks : List String) :
    (candidates choice fallbacks).Nodup :=
  (distinctFrom_nodup [] _).1

/-- A selection by an override and fallbacks calls each factory once at most. -/
theorem select_calls (r : Registry α) (choice : Option String) (fallbacks : List String) :
    (select r choice fallbacks).registry.table =
        r.table.after (select r choice fallbacks).tried ∧
      ∀ name, (select r choice fallbacks).tried.count name ≤ 1 := by
  obtain ⟨first, called⟩ := (selectFrom_takesFirst r (candidates choice fallbacks)).tried
  exact ⟨called,
    List.nodup_iff_count_le_one.1 ((candidates_nodup choice fallbacks).sublist first.sublist)⟩

/-! ## Histories -/

/-- What is done with a registry. -/
inductive Use (α : Type) where
  | register (name : String) (factory : Factory α)
  | selectFrom (names : List String)
  | select (choice : Option String) (fallbacks : List String)

/-- The registry after a use, and the names that were tried. -/
def Use.on (r : Registry α) : Use α → Registry α × List String
  | .register name factory => (r.register name factory, [])
  | .selectFrom names =>
    let s := Strategy.selectFrom r names
    (s.registry, s.tried)
  | .select choice fallbacks =>
    let s := Strategy.select r choice fallbacks
    (s.registry, s.tried)

namespace Registry

/-- A registry after uses one after the other. -/
def after (r : Registry α) (uses : List (Use α)) : Registry α :=
  uses.foldl (fun r use => (use.on r).1) r

/-- All names that are tried in the course of uses. -/
def tried (r : Registry α) : List (Use α) → List String
  | [] => []
  | use :: rest => (use.on r).2 ++ tried (use.on r).1 rest

end Registry

/-- What stands under a name after uses of an empty registry. -/
inductive Stands (uses : List (Use α)) (name : String) : Option (Factory α) → Prop
  /-- Nothing was registered under it. -/
  | never (unregistered : ∀ factory, .register name factory ∉ uses) : Stands uses name none
  /-- The factory that was registered last, with one call more for each try of its name since. -/
  | latest {before since : List (Use α)} {factory : Factory α}
    (split : uses = before ++ .register name factory :: since)
    (last : ∀ other, .register name other ∉ since) :
    Stands uses name (some { factory with
      calls := factory.calls +
        (((Registry.after [] before).register name factory).tried since).count name })

section Histories

variable {r : Registry α} {uses : List (Use α)} {name : String}

/-- One use leaves a factory of another name as it is, but for the calls. -/
theorem table_on {use : Use α} (other : ∀ factory, use ≠ .register name factory) :
    (use.on r).1.table name = r.table.after (use.on r).2 name := by
  cases use with
  | register key factory =>
      have elsewhere : name ≠ key := fun same => other factory (by rw [same])
      simp [Use.on, Registry.table_register, elsewhere]
  | selectFrom names => exact congrFun (selectFrom_takesFirst r names).tried.2 name
  | select choice fallbacks => exact congrFun (select_calls r choice fallbacks).1 name

theorem table_after (other : ∀ factory, .register name factory ∉ uses) :
    (r.after uses).table name = r.table.after (r.tried uses) name := by
  induction uses generalizing r with
  | nil => simp [Registry.after, Registry.tried]
  | cons use rest ih =>
      have first := table_on (r := r) fun factory same =>
        other factory (same ▸ List.mem_cons_self)
      have others := ih (r := (use.on r).1) fun factory later =>
        other factory (List.mem_cons_of_mem use later)
      calc (r.after (use :: rest)).table name
          = (use.on r).1.table.after ((use.on r).1.tried rest) name := others
        _ = (r.table.after (use.on r).2).after ((use.on r).1.tried rest) name :=
            Table.after_congr first _
        _ = r.table.after (r.tried (use :: rest)) name := by
            rw [Table.after_after, Registry.tried]

theorem never_or_latest (uses : List (Use α)) (name : String) :
    (∀ factory, .register name factory ∉ uses) ∨
      ∃ before factory since, uses = before ++ .register name factory :: since ∧
        ∀ other, .register name other ∉ since := by
  induction uses with
  | nil => exact .inl fun factory => List.not_mem_nil
  | cons use rest ih =>
      obtain never | ⟨before, factory, since, split, last⟩ := ih
      · by_cases first : ∃ factory, use = .register name factory
        · obtain ⟨factory, rfl⟩ := first
          exact .inr ⟨[], factory, rest, rfl, never⟩
        · refine .inl fun factory here => ?_
          rcases List.mem_cons.1 here with same | later
          · exact first ⟨factory, same.symm⟩
          · exact never factory later
      · exact .inr ⟨use :: before, factory, since, by rw [split, List.cons_append], last⟩

theorem stands_after (uses : List (Use α)) (name : String) :
    Stands uses name ((Registry.after [] uses).table name) := by
  obtain never | ⟨before, factory, since, split, last⟩ := never_or_latest uses name
  · rw [table_after never]
    exact .never never
  · have put : ((Registry.after [] before).register name factory).table name = some factory := by
      rw [Registry.table_register, Function.update_self]
    have now : Registry.after [] uses =
        ((Registry.after [] before).register name factory).after since := by
      rw [split, Registry.after, List.foldl_append]
      rfl
    rw [now, table_after last, Table.after, put]
    exact .latest split last

end Histories

/-! ## The result -/

/-- **A selection takes the first candidate that builds and tries nothing after it.**  Whatever
was registered and selected before, under each name stands the factory registered last, with one
call more for each try since.  A selection from any names tries them in order up to the first
that builds; a selection by an override and fallbacks does the same with their candidates and
calls each factory once at most. -/
theorem takes_first_candidate (uses : List (Use α)) :
    (∀ name, Stands uses name ((Registry.after [] uses).table name)) ∧
    (∀ names, TakesFirst (Registry.after [] uses) names
      (selectFrom (Registry.after [] uses) names)) ∧
    ∀ choice fallbacks,
      TakesFirst (Registry.after [] uses) (candidates choice fallbacks)
        (select (Registry.after [] uses) choice fallbacks) ∧
      ∀ name, ∃ more ≤ 1,
        (select (Registry.after [] uses) choice fallbacks).registry.table name =
          ((Registry.after [] uses).table name).map fun factory =>
            { factory with calls := factory.calls + more } := by
  refine ⟨stands_after uses, selectFrom_takesFirst _, fun choice fallbacks =>
    ⟨selectFrom_takesFirst _ _, fun name => ?_⟩⟩
  obtain ⟨called, once⟩ := select_calls (Registry.after [] uses) choice fallbacks
  exact ⟨_, once name, congrFun called name⟩

end MediaTransport.Strategy
