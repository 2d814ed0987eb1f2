import Mathlib.Logic.Basic

/-!
# Configuration parameters

The parameters that a session may change.  A parameter carries its value, the value that a reset
brings back, and the context and source of its last assignment.

* `reset_restores_iff` — **the end of a session gives a parameter the value of the last
  configuration load back, unless a session has changed it since that load and startup has loaded
  another value**.
-/

namespace PgBalancer.Config

/-- `ConfigContext` -/
inductive ConfigContext where
  | boot | init | reload | pcp | session
  deriving DecidableEq

/-- `GucSource` -/
inductive GucSource where
  | default | file | argv | client | session | valueDefault
  deriving DecidableEq

/-- The record of a parameter; `α` are the values of its type that are in its range. -/
structure ConfigRecord (α : Type) where
  /-- `*variable` -/
  value : α
  bootVal : α
  resetVal : α
  scontext : ConfigContext
  source : GucSource
  resetSource : GucSource

variable {α : Type} (parse : String → Option α)

/-- `setConfigOptionVar`; `none` is the NULL of a reset, and as a result the return value `false`,
with nothing changed. -/
def setConfigOptionVar (record : ConfigRecord α) (value : Option String) (context : ConfigContext)
    (source : GucSource) : Option (ConfigRecord α) :=
  let reset := value.isNone && source ≠ .default
  (value.elim (some (if reset then record.resetVal else record.bootVal)) parse).map fun newval =>
    { record with
      value := newval
      resetVal := if context = .init then newval else record.resetVal
      scontext := context
      source := if reset then record.resetSource else source
      resetSource := if context = .init then source else record.resetSource }

/-- What happens to a parameter: a configuration file has it at startup or at a reload, a session
sets it or resets it, and a session ends, or asks for `RESET ALL`. -/
inductive ConfigEvent where
  | startup (value : String)
  | reload (value : String)
  | set (value : Option String)
  | resetAll

/-- A parameter, beside what the last load and the last startup have loaded, and whether a session
has assigned to it since the last load. -/
structure Setting (α : Type) where
  record : ConfigRecord α
  loaded : α
  started : α
  touched : Bool

/-- What an event does to the setting. -/
def Setting.step (s : Setting α) : ConfigEvent → Setting α
  | .startup value => (setConfigOptionVar parse s.record (some value) .init .file).elim s
      fun record => ⟨record, record.value, record.value, false⟩
  | .reload value => (setConfigOptionVar parse s.record (some value) .reload .file).elim s
      fun record => ⟨record, record.value, s.started, false⟩
  | .set value => (setConfigOptionVar parse s.record value .session .session).elim s
      fun record => ⟨record, s.loaded, s.started, true⟩
  | .resetAll =>
    -- `reset_all_variables`
    if s.record.scontext ≠ .session then s
    else (setConfigOptionVar parse s.record none .init .file).elim s
      fun record => { s with record := record }

/-- Before the configuration is read. -/
def Setting.boot (bootVal : α) : Setting α :=
  ⟨⟨bootVal, bootVal, bootVal, .boot, .default, .default⟩, bootVal, bootVal, false⟩

/-- The setting after some events. -/
def Setting.run (bootVal : α) (es : List ConfigEvent) : Setting α :=
  es.foldl (Setting.step parse) (.boot bootVal)

/-- A reset gives the value of startup back, and what a session has changed is marked, or has been
reset. -/
structure Setting.Inv (s : Setting α) : Prop where
  resetVal : s.record.resetVal = s.started
  untouched : s.touched = false → s.record.value = s.loaded ∧ s.record.scontext ≠ .session
  touched : s.touched = true → s.record.scontext = .session ∨ s.record.value = s.started

variable {parse} {s : Setting α}

theorem Setting.Inv.step (h : s.Inv) (e : ConfigEvent) : (s.step parse e).Inv := by
  cases e with
  | startup value | reload value | set value =>
    simp only [Setting.step, setConfigOptionVar, Option.elim_map]
    generalize Option.elim _ _ parse = newval
    cases newval with
    | none => exact h
    | some newval => constructor <;> simp [h.resetVal]
  | resetAll =>
    simp only [Setting.step]
    split
    · exact h
    · next hsession =>
      have htouched : s.touched ≠ false := fun hfalse => hsession (h.untouched hfalse).2
      constructor <;> simp [setConfigOptionVar, h.resetVal, htouched]

theorem inv_run (bootVal : α) (es : List ConfigEvent) : (Setting.run parse bootVal es).Inv :=
  List.foldlRecOn es _ ⟨rfl, fun _ => ⟨rfl, nofun⟩, nofun⟩ fun _ h e _ => h.step e

/-- **The end of a session, in any run**: the parameter has the value of the last load exactly if no
session has assigned to it since, or startup has loaded the same value. -/
theorem reset_restores_iff (parse : String → Option α) (bootVal : α) (es : List ConfigEvent) :
    let s := Setting.run parse bootVal es
    (s.step parse .resetAll).record.value = s.loaded ↔ s.touched = false ∨
      s.started = s.loaded := by
  intro s
  have h : s.Inv := inv_run bootVal es
  by_cases hsession : s.record.scontext = .session
  · have htouched : s.touched ≠ false := fun hfalse => (h.untouched hfalse).2 hsession
    simp [Setting.step, setConfigOptionVar, hsession, h.resetVal, htouched]
  · rw [Setting.step, if_pos hsession]
    cases htouched : s.touched with
    | false => simp [(h.untouched htouched).1]
    | true => simp [(h.touched htouched).resolve_left hsession]

/-- `log_error_verbosity`: a reload loads `verbose` in place of `default`, and a session sets
`terse`.  Its end brings `default` back. -/
theorem reset_after_reload :
    let verbosity := fun value => [("terse", 0), ("default", 1), ("verbose", 2)].lookup value
    let s := Setting.run verbosity 1 [.startup "default", .reload "verbose", .set (some "terse")]
    s.loaded = 2 ∧ (s.step verbosity .resetAll).record.value = 1 := by
  decide +kernel

end PgBalancer.Config
