/-
# MediaTransport.Proofs.PacketLog.Choosing -- a packet logger can always be chosen

The built-in loggers answer every call alike (`Steady`, `steady_registry`), and the one that
writes nothing can always be built.  It is among the candidates whatever the override is, so
that a selection cannot run out of them: the chosen logger is the first candidate that is not
refused, and the failures are the candidates in front of it (`tryAll_of_steady`).

Which candidates these are depends on the trimmed override and on whether trace lines are
written, and on nothing else (`candidates_split`).
-/
import MediaTransport.PacketLog
import MediaTransport.Proofs.Strategy.Selection

namespace MediaTransport

set_option autoImplicit false

namespace Strategy

variable {α : Type} {r : Registry α} {answers : String → Except String α}

/-- The factories of a registry answer every call alike. -/
def Steady (r : Registry α) (answers : String → Except String α) : Prop :=
  ∀ tried name, (r.table.after tried).answer name = answers name

theorem Steady.build (steady : Steady r answers) (name : String) :
    (r.build name).1 = answers name ∧ Steady (r.build name).2 answers := by
  constructor
  · rw [Registry.build_fst, ← steady [], Table.after_nil]
  · intro tried other
    rw [Registry.table_build, Table.after_after, steady]

/-- A selection takes the first name that is not refused. -/
theorem tryAll_of_steady {name : String} {value : α} (steady : Steady r answers)
    (builds : answers name = .ok value) (refused : List Attempt)
    (refuses : ∀ attempt ∈ refused, answers attempt.name = .error attempt.cause)
    (attempted rest : List String) (failures : List Attempt) :
    (tryAll attempted failures (refused.map Attempt.name ++ name :: rest) r).result =
      .ok ⟨name, value, failures ++ refused⟩ := by
  induction refused generalizing failures r with
  | nil =>
      obtain ⟨answer, -⟩ := steady.build name
      rcases built : r.build name with ⟨_, left⟩
      rw [built, builds] at answer
      obtain rfl : _ = Except.ok value := answer
      simp [tryAll, built]
  | cons first others ih =>
      obtain ⟨answer, steady⟩ := steady.build first.name
      rcases built : r.build first.name with ⟨_, left⟩
      rw [built, refuses first List.mem_cons_self] at answer
      rw [built] at steady
      obtain rfl : _ = Except.error first.cause := answer
      have later := ih steady
        (fun attempt here => refuses attempt (List.mem_cons_of_mem first here)) (failures ++ [first])
      simpa [tryAll, built] using later

end Strategy

namespace PacketLog

open Strategy

/-- What the built-in loggers answer by name. -/
def answers (limit : Log.Threshold) (name : String) : Except String Logger :=
  if name = "null" then .ok .silent
  else if name = "log" then
    if limit = some .trace then .ok .lines else .error "trace level logging is disabled"
  else .error (Registry.unregistered name)

theorem enables_trace_iff (limit : Log.Threshold) :
    limit.enables .trace = true ↔ limit = some .trace := by
  cases limit with
  | none => simp [Log.Threshold.enables]
  | some most => cases most <;> simp [Log.Threshold.enables, Log.Level.verbosity]

theorem steady_registry (limit : Log.Threshold) : Steady (registry limit) (answers limit) := by
  intro tried name
  simp only [registry, Registry.table_register, Table.answer, Table.after, answers,
    Function.update_apply, enables_trace_iff]
  split_ifs <;> rfl

/-! ## The candidates -/

/-- The name of the logger that is chosen. -/
def chosen (limit : Log.Threshold) (choice : Option String) : String :=
  if choice.map Text.trim = some "null" ∨ limit ≠ some .trace then "null" else "log"

/-- The override, if it is the name of something that is no built-in logger. -/
def stranger (choice : Option String) : List String :=
  (choice.map Text.trim).toList.filter fun name => name ≠ "" ∧ name ∉ fallbacks

/-- The candidates that are tried in vain, and why. -/
def refused (limit : Log.Threshold) (choice : Option String) : List Attempt :=
  (stranger choice).map (fun name => ⟨name, Registry.unregistered name⟩) ++
    if choice.map Text.trim ≠ some "null" ∧ limit ≠ some .trace then
      [⟨"log", "trace level logging is disabled"⟩]
    else []

/-- The built-in loggers stand in their order unless the override asks for the silent one. -/
theorem candidates_fallbacks (choice : Option String) :
    candidates choice fallbacks = stranger choice ++
      if choice.map Text.trim = some "null" then ["null", "log"] else ["log", "null"] := by
  cases choice with
  | none => rfl
  | some text =>
      simp only [candidates, overriding, stranger, Option.map_some, Option.toList_some,
        Option.some.injEq]
      generalize Text.trim text = name
      by_cases blank : name = ""
      · subst blank
        rfl
      by_cases log : name = "log"
      · subst log
        rfl
      by_cases null : name = "null"
      · subst null
        rfl
      simp [distinctFrom, fallbacks, blank, log, null, Ne.symm log, Ne.symm null]

theorem candidates_split (limit : Log.Threshold) (choice : Option String) : ∃ rest,
    candidates choice fallbacks =
      (refused limit choice).map Attempt.name ++ chosen limit choice :: rest := by
  rw [candidates_fallbacks]
  by_cases null : choice.map Text.trim = some "null"
  · exact ⟨["log"], by simp [refused, chosen, null, Function.comp_def]⟩
  · by_cases traced : limit = some .trace
    · exact ⟨["null"], by simp [refused, chosen, null, traced, Function.comp_def]⟩
    · exact ⟨[], by simp [refused, chosen, null, traced, Function.comp_def]⟩

theorem refused_refuses (limit : Log.Threshold) (choice : Option String) :
    ∀ attempt ∈ refused limit choice, answers limit attempt.name = .error attempt.cause := by
  intro attempt here
  rcases List.mem_append.1 here with unknown | silent
  · obtain ⟨name, strange, rfl⟩ := List.mem_map.1 unknown
    obtain ⟨-, strange⟩ := List.mem_filter.1 strange
    simp only [fallbacks, List.mem_cons, List.not_mem_nil, or_false, not_or,
      decide_eq_true_eq] at strange
    obtain ⟨-, noLog, noNull⟩ := strange
    rw [answers, if_neg noNull, if_neg noLog]
  · split at silent
    · rename_i untraced
      obtain rfl := List.mem_singleton.1 silent
      simp [answers, untraced.2]
    · simp at silent

theorem chosen_builds (limit : Log.Threshold) (choice : Option String) :
    answers limit (chosen limit choice) =
      .ok (if chosen limit choice = "null" then .silent else .lines) := by
  unfold chosen
  split
  · rfl
  · rename_i traced
    simp only [not_or, not_not] at traced
    simp [answers, traced.2]

/-! ## The choice -/

theorem select_result (limit : Log.Threshold) (choice : Option String) :
    (select limit choice).result = .ok
      ⟨chosen limit choice, if chosen limit choice = "null" then .silent else .lines,
        refused limit choice⟩ := by
  obtain ⟨rest, split⟩ := candidates_split limit choice
  rw [select, Strategy.select, selectFrom, split]
  exact tryAll_of_steady (steady_registry limit) (chosen_builds limit choice)
    (refused limit choice) (refused_refuses limit choice) _ rest []

/-- **A packet logger is always chosen.**  Whatever the override and whichever lines are written,
the selection succeeds: with the silent logger if the trimmed override asks for it or trace lines
are not written, and with the one that writes lines otherwise.  What was tried in vain is an
override that names no built-in logger, and then the logger of lines if it cannot be built and
was not passed over; it is called once at most, even if the override names it too. -/
theorem logger_always_chosen (limit : Log.Threshold) (choice : Option String) :
    (∃ selected, (select limit choice).result = .ok selected ∧
      selected.name =
        (if choice.map Text.trim = some "null" ∨ limit ≠ some .trace then "null" else "log") ∧
      selected.value = (if selected.name = "null" then .silent else .lines) ∧
      selected.failures =
        ((choice.map Text.trim).toList.filter fun name =>
            name ≠ "" ∧ name ≠ "log" ∧ name ≠ "null").map
          (fun name => ⟨name, Registry.unregistered name⟩) ++
        if choice.map Text.trim ≠ some "null" ∧ limit ≠ some .trace then
          [⟨"log", "trace level logging is disabled"⟩]
        else []) ∧
    (select limit choice).tried.count "log" ≤ 1 ∧
    ∃ factory, (select limit choice).registry.table "log" = some factory ∧ factory.calls ≤ 1 := by
  obtain ⟨called, once⟩ := select_calls (registry limit) choice fallbacks
  refine ⟨⟨_, select_result limit choice, rfl, rfl, ?_⟩, once "log", ?_⟩
  · simp [refused, stranger, fallbacks]
  · refine ⟨_, congrFun called "log", ?_⟩
    simpa using once "log"

/-- An override with a blank, tried before the logger of lines, which is not built. -/
example :
    let s := select (some .info) (some " syslog")
    (s.result.toOption.map Selected.name, s.tried) = (some "null", ["syslog", "log", "null"]) := by
  decide

end PacketLog

end MediaTransport
