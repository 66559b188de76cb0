import Mathlib.Data.List.Induction
import RequestSql.Proofs.Service
import RequestSql.Session

/-!
# What a session remembers

Of all steps that a session ran it remembers the last dialect of each name, the last call that set
the engine, and whether there is an application. It also keeps the order in which names were
registered, but no step shows it. So two runs that agree on the three come to sessions that cannot
be told apart, however they differ otherwise, and what a session shows is told from them alone.
-/

namespace RequestSql.Session

/-- The dialect that a step registers. -/
def Step.registered? : Step → Option Dialect
  | .register d => some d
  | _ => none

/-- The step is a call that sets the engine, and it does not fail. -/
def Step.setsEngine : Step → Bool
  | .start _ | .stop => true
  | .launch given => (Settings.read { given }).isOk
  | _ => false

/-- The engine that a call puts in force, if any. -/
def Step.engine? : Step → Option Engine
  | .start engine => some engine
  | .launch given => match Settings.read { given } with
    | .ok settings => some (engineOf settings)
    | .faulty _ => none
  | _ => none

/-- The step makes an application, and it does not fail. -/
def Step.launches : Step → Bool
  | .launch given => (Settings.read { given }).isOk
  | _ => false

/-- The step is one of those that can change a session. -/
def Step.isChange : Step → Bool
  | .register _ | .start _ | .stop | .launch _ => true
  | _ => false

/-- The dialects known from the start and those that are registered, in their order. -/
def known (steps : List Step) : List Dialect :=
  Registry.builtin.dialects ++ steps.filterMap Step.registered?

/-- The last dialect of a name. -/
def lastNamed (steps : List Step) (name : String) : Option Dialect :=
  ((known steps).filter (·.name == name)).getLast?

/-- The last call that set the engine. -/
def lastSetting (steps : List Step) : Option Step := (steps.filter Step.setsEngine).getLast?

/-- The runs agree on the last dialect of every name, on the last call that set the engine, and on
whether there is an application. -/
structure SameHistory (as bs : List Step) : Prop where
  dialects : ∀ name, lastNamed as name = lastNamed bs name
  setting : lastSetting as = lastSetting bs
  app : as.any Step.launches = bs.any Step.launches

/-- No step tells the sessions apart. -/
structure Alike (s t : Session) : Prop where
  service : s.service.Alike t.service
  app : s.hasApp = t.hasApp

/-- The session holds what steps come to, and the tools that it was given. -/
structure Remembers (tools : Tools) (s : Session) (steps : List Step) : Prop where
  dialects : ∀ name, s.service.registry.get? name = lastNamed steps name
  engine : s.service.engine = (lastSetting steps).bind Step.engine?
  app : s.hasApp = steps.any Step.launches
  tools : s.service.tools = tools

variable {s t : Session} {as bs steps : List Step} {step : Step} {tools : Tools}

theorem lastNamed_append (steps : List Step) (step : Step) (name : String) :
    lastNamed (steps ++ [step]) name =
      (step.registered?.filter (·.name == name)).or (lastNamed steps name) := by
  have hknown : known (steps ++ [step]) = known steps ++ step.registered?.toList := by
    rw [known, List.filterMap_append, ← List.append_assoc]
    cases h : step.registered? <;> simp [known, h]
  rw [lastNamed, hknown, List.filter_append, List.getLast?_append]
  cases step.registered? with
  | none => rfl
  | some d =>
    cases h : d.name == name <;> simp [Option.filter, h, lastNamed]

/-- What a step makes of a session, part by part. -/
theorem next_eq (s : Session) (step : Step) : s.next step = {
    service := {
      registry := step.registered?.elim s.service.registry s.service.registry.register
      engine := if step.setsEngine then step.engine? else s.service.engine
      tools := s.service.tools }
    hasApp := s.hasApp || step.launches } := by
  cases step with
  | launch given =>
    cases h : Settings.read { given } with
    | ok settings => simp [next, Step.registered?, Step.setsEngine, Step.engine?, Step.launches, h]
    | faulty faults => simp [next, Step.registered?, Step.setsEngine, Step.launches, Reading.isOk, h]
  | available | lookup | register | identifier | compile | start | stop | run | check | listing
    | http => simp [next, Step.registered?, Step.setsEngine, Step.engine?, Step.launches]

theorem get?_next (s : Session) (step : Step) (name : String) :
    (s.next step).service.registry.get? name =
      (step.registered?.filter (·.name == name)).or (s.service.registry.get? name) := by
  rw [next_eq]
  cases step.registered? with
  | none => rfl
  | some d =>
    refine (Registry.get?_register s.service.registry d name).trans ?_
    by_cases h : d.name = name <;> simp [Option.filter, h]

theorem lastSetting_append (steps : List Step) (step : Step) :
    lastSetting (steps ++ [step]) = if step.setsEngine then some step else lastSetting steps := by
  rw [lastSetting, List.filter_append, List.getLast?_append]
  cases h : step.setsEngine <;> simp [h, lastSetting]

/-- Each step is remembered. -/
theorem Remembers.next (h : Remembers tools s steps) (step : Step) :
    Remembers tools (s.next step) (steps ++ [step]) where
  dialects name := by rw [get?_next, h.dialects, lastNamed_append]
  engine := by
    simp only [next_eq, h.engine, lastSetting_append]
    cases step.setsEngine <;> rfl
  app := by
    simp only [next_eq, h.app, List.any_append, List.any_cons, List.any_nil, Bool.or_false]
  tools := by rw [next_eq, h.tools]

theorem remembers_start (tools : Tools) : Remembers tools (.start tools) [] where
  dialects name := by
    rw [lastNamed, known, List.filterMap_nil, List.append_nil]
    exact Registry.get?_eq_getLast? .builtin name
  engine := rfl
  app := rfl
  tools := rfl

theorem after_append (s : Session) (as bs : List Step) :
    s.after (as ++ bs) = (s.after as).after bs :=
  List.foldl_append

theorem remembers_after (tools : Tools) (steps : List Step) :
    Remembers tools ((Session.start tools).after steps) steps := by
  -- from the last step, because a later step overrides the earlier ones
  induction steps using List.reverseRecOn with
  | nil => exact remembers_start tools
  | append_singleton steps step ih =>
    rw [after_append]
    exact ih.next step

/-- Sessions of one history differ at most in the order of registration. -/
theorem Remembers.alike (hs : Remembers tools s as) (ht : Remembers tools t bs)
    (h : SameHistory as bs) : s.Alike t where
  service := {
    dialects name := by rw [hs.dialects, ht.dialects, h.dialects]
    engine := by rw [hs.engine, ht.engine, h.setting]
    tools := hs.tools.trans ht.tools.symm }
  app := by rw [hs.app, ht.app, h.app]

theorem alike_after (tools : Tools) (h : SameHistory as bs) :
    ((Session.start tools).after as).Alike ((Session.start tools).after bs) :=
  (remembers_after tools as).alike (remembers_after tools bs) h

/-- Sessions that are alike stay so, whatever the step. -/
theorem Alike.next (h : s.Alike t) (step : Step) : (s.next step).Alike (t.next step) where
  service := {
    dialects name := by rw [get?_next, get?_next, h.service.dialects]
    engine := by rw [next_eq, next_eq, h.service.engine]
    tools := by rw [next_eq, next_eq, h.service.tools] }
  app := by rw [next_eq, next_eq, h.app]

theorem Alike.answer (h : s.Alike t) (step : Step) : s.answer step = t.answer step := by
  have hs := h.service
  cases step with
  | available => simp only [Session.answer, hs.available]
  | lookup name => simp only [Session.answer, hs.find]
  | register d =>
    have hregistered : (s.next (.register d)).service.registry.available =
        (t.next (.register d)).service.registry.available :=
      (h.next (.register d)).service.available
    exact congrArg (fun names => Except.ok (Answer.names names)) hregistered
  | identifier name dialect => simp only [Session.answer, hs.find]
  | compile request dialect =>
    simp only [Session.answer, hs.tools, Pipeline.compile_congr hs.dialects]
  | run request dialect =>
    simp only [Session.answer, hs.engine, hs.tools, Pipeline.compile_congr hs.dialects]
  | check sql dialect => simp only [Session.answer, hs.tools]
  | listing => simp only [Session.answer, hs.listing]
  | http r => simp only [Session.answer, h.app, hs.serve]
  | start | stop | launch => rfl

/-- What follows does not tell sessions apart that are alike. -/
theorem Alike.answers (h : s.Alike t) (rest : List Step) : s.answers rest = t.answers rest := by
  induction rest generalizing s t with
  | nil => rfl
  | cons step rest ih => rw [Session.answers, Session.answers, h.answer step, ih (h.next step)]

/-- Dialects of different names may be registered in either order. -/
theorem sameHistory_swap (as : List Step) {d e : Dialect} (h : d.name ≠ e.name) :
    SameHistory (as ++ [.register d, .register e]) (as ++ [.register e, .register d]) where
  dialects name := by
    have hsplit (x y : Step) : as ++ [x, y] = as ++ [x] ++ [y] := by simp
    rw [hsplit, hsplit, lastNamed_append, lastNamed_append, lastNamed_append, lastNamed_append]
    by_cases hd : d.name = name
    · have he : e.name ≠ name := fun he => h (hd.trans he.symm)
      simp [Step.registered?, Option.filter, hd, he]
    · simp [Step.registered?, Option.filter, hd]
  setting := by simp [lastSetting, Step.setsEngine]
  app := by simp [Step.launches]

/-- A dialect that another of its name replaces later need not have been registered. -/
theorem sameHistory_overwritten (as mid : List Step) {d e : Dialect} (h : d.name = e.name) :
    SameHistory (as ++ .register d :: mid ++ [.register e]) (as ++ mid ++ [.register e]) where
  dialects name := by
    rw [lastNamed_append, lastNamed_append]
    by_cases he : e.name = name
    · simp [Step.registered?, Option.filter, he]
    · have hd : d.name ≠ name := fun hd => he (h.symm.trans hd)
      have hbefore : lastNamed (as ++ .register d :: mid) name = lastNamed (as ++ mid) name := by
        simp [lastNamed, known, Step.registered?, hd]
      rw [hbefore]
  setting := by simp [lastSetting, Step.setsEngine]
  app := by simp [Step.launches]

/-- A step that asks for something, or that fails, changes nothing. -/
theorem next_eq_self (h : step.isChange = false ∨ ∃ e, s.answer step = .error e) :
    s.next step = s := by
  cases step with
  | launch given =>
    rcases h with h | ⟨e, h⟩
    · cases h
    · rw [answer] at h
      rw [next]
      cases hread : Settings.read { given } with
      | ok settings =>
        rw [hread] at h
        cases h
      | faulty faults => rfl
  | register | start | stop =>
    rcases h with h | ⟨e, h⟩
    · cases h
    · cases h
  | available | lookup | identifier | compile | run | check | listing | http => rfl

/-- What is to be seen of a session is what its steps say: the names in strict order, the last
dialect of each name, and an engine and a default dialect of one call, or no engine and MySQL. -/
structure Shows (s : Session) (steps : List Step) : Prop where
  sorted : s.service.registry.available.Pairwise (· < ·)
  available : ∀ name, name ∈ s.service.registry.available ↔ ∃ d ∈ known steps, d.name = name
  found : ∀ name d, lastNamed steps name = some d →
    s.service.registry.find (.text name) = .ok d
  missing : ∀ name, lastNamed steps name = none →
    s.service.registry.find (.text name) =
      .error (.unsupported (.text name) s.service.registry.available)
  engine : s.service.engine = (lastSetting steps).bind Step.engine?
  default : s.service.dialect =
    ((lastSetting steps).bind Step.engine?).elim "mysql" Engine.dialect
  listing : s.service.listing = .map [
    (.text "dialects", .list (s.service.registry.available.filterMap fun name =>
      (lastNamed steps name).map fun d =>
        .map [(.text "name", .text d.name), (.text "quote_char", .text d.quote)])),
    (.text "default", .text s.service.dialect)]

theorem lastNamed_isSome_iff (steps : List Step) (name : String) :
    (∃ d, lastNamed steps name = some d) ↔ ∃ d ∈ known steps, d.name = name := by
  rw [← Option.isSome_iff_exists, lastNamed, List.getLast?_isSome, Ne, List.filter_eq_nil_iff]
  simp

theorem Remembers.shows (h : Remembers tools s steps) : Shows s steps where
  sorted := s.service.registry.sorted_available
  available name := by
    rw [Registry.mem_available_iff, h.dialects]
    exact lastNamed_isSome_iff steps name
  found name d hd := Registry.find_of_get? ((h.dialects name).trans hd)
  missing name hnone := Registry.find_of_none ((h.dialects name).trans hnone)
  engine := h.engine
  default := by
    rw [Service.dialect, h.engine]
    cases (lastSetting steps).bind Step.engine? <;> rfl
  listing := by
    simp only [Service.listing, h.dialects]
    rfl

/-- Sessions that are alike answer alike from then on, and so do runs of one history. Registering
dialects of different names in either order makes no difference, nor does a dialect that is replaced
later, nor a step that asks or fails; and what is to be seen of a session is told from its history.
This is so whatever the parser and the formatter do. -/
theorem answers_of_history (tools : Tools) :
    (∀ s t : Session, s.Alike t → ∀ rest, s.answers rest = t.answers rest) ∧
    (∀ as bs, SameHistory as bs → ∀ rest,
      ((Session.start tools).after as).answers rest =
        ((Session.start tools).after bs).answers rest) ∧
    (∀ as d e, d.name ≠ e.name →
      ((Session.start tools).after (as ++ [.register d, .register e])).Alike
        ((Session.start tools).after (as ++ [.register e, .register d]))) ∧
    (∀ as mid d e, d.name = e.name →
      ((Session.start tools).after (as ++ .register d :: mid ++ [.register e])).Alike
        ((Session.start tools).after (as ++ mid ++ [.register e]))) ∧
    (∀ (s : Session) step, (step.isChange = false ∨ ∃ e, s.answer step = .error e) →
      s.next step = s) ∧
    ∀ steps, Shows ((Session.start tools).after steps) steps := by
  refine ⟨fun s t => Alike.answers, ?history, ?swapped, ?overwritten, fun s step => next_eq_self,
    ?shown⟩
  case history => exact fun as bs h => (alike_after tools h).answers
  case swapped => exact fun as d e h => alike_after tools (sameHistory_swap as h)
  case overwritten =>
    exact fun as mid d e h => alike_after tools (sameHistory_overwritten as mid h)
  case shown => exact fun steps => (remembers_after tools steps).shows

/-- One run starts an engine, runs a request that is none, replaces a dialect of its own and one
known from the start, and ends in an application that cannot be made and a lookup of an unknown
name. The other registers in another order and only what lasts, and has no engine before its
application. Their registries differ. -/
theorem answers_of_history_of_replaced :
    ∃ (first last other own : Dialect) (given broken : Fields Value) (as bs : List Step)
      (s t : Session),
      first = { name := "b", quote := "[" } ∧ last = { name := "b", quote := "|" } ∧
      other = { name := "c", quote := "`" } ∧ own = { name := "mysql", quote := "'" } ∧
      given = .ofList [("default_dialect", .text "b"), ("validate_sql", .text "off")] ∧
      broken = .ofList [("validate_sql", .text "maybe")] ∧
      as = [.register first, .register own, .register other, .start {}, .run (.text "") (.text "b"),
        .launch given, .register last, .launch broken, .lookup (.text "d")] ∧
      bs = [.register other, .register last, .stop, .launch given, .listing, .register own] ∧
      s = (Session.start {}).after as ∧ t = (Session.start {}).after bs ∧
      SameHistory as bs ∧ (∀ rest, s.answers rest = t.answers rest) ∧
      s.service.registry.byName ≠ t.service.registry.byName ∧
      s.service.registry.find (.text "b") = .ok last ∧
      s.service.engine = some { validate := false, dialect := "b" } ∧ s.service.dialect = "b" := by
  let first : Dialect := { name := "b", quote := "[" }
  let last : Dialect := { name := "b", quote := "|" }
  let other : Dialect := { name := "c", quote := "`" }
  let own : Dialect := { name := "mysql", quote := "'" }
  let given : Fields Value :=
    .ofList [("default_dialect", .text "b"), ("validate_sql", .text "off")]
  let broken : Fields Value := .ofList [("validate_sql", .text "maybe")]
  let as : List Step := [.register first, .register own, .register other, .start {},
    .run (.text "") (.text "b"), .launch given, .register last, .launch broken, .lookup (.text "d")]
  let bs : List Step :=
    [.register other, .register last, .stop, .launch given, .listing, .register own]
  have hgiven : (Step.launch given).setsEngine = true := by decide +kernel
  have hbroken : (Step.launch broken).setsEngine = false := by decide +kernel
  have hsetting : lastSetting as = some (.launch given) := by
    simp only [lastSetting, as, List.filter_cons, hgiven, hbroken]
    rfl
  have hengine : (Step.launch given).engine? = some { validate := false, dialect := "b" } := by
    decide +kernel
  have hsame : SameHistory as bs := by
    constructor
    · intro name
      have has : known as = [.mysql, .postgres, .sqlite, first, own, other, last] := rfl
      have hbs : known bs = [.mysql, .postgres, .sqlite, other, last, own] := rfl
      rw [lastNamed, lastNamed, has, hbs]
      by_cases hb : "b" = name
      · subst hb
        rfl
      by_cases hc : "c" = name
      · subst hc
        rfl
      by_cases hm : "mysql" = name
      · subst hm
        rfl
      · simp [List.filter_cons, first, last, other, own, hb, hc, hm]
    · rw [hsetting]
      simp only [lastSetting, bs, List.filter_cons, hgiven]
      rfl
    · have hlaunches : (Step.launch given).launches = true := hgiven
      simp [as, bs, hlaunches]
  have hdiffer : ((Session.start {}).after as).service.registry.byName ≠
      ((Session.start {}).after bs).service.registry.byName := by
    decide +kernel
  obtain ⟨-, hhistory, -, -, -, hshows⟩ := answers_of_history {}
  have hshown := hshows as
  refine ⟨first, last, other, own, given, broken, as, bs, _, _, rfl, rfl, rfl, rfl, rfl, rfl, rfl,
    rfl, rfl, rfl, hsame, hhistory as bs hsame, hdiffer, hshown.found "b" last rfl, ?_, ?_⟩
  · rw [hshown.engine, hsetting]
    exact hengine
  · rw [hshown.default, hsetting]
    change (Step.launch given).engine?.elim _ _ = _
    rw [hengine]
    rfl

end RequestSql.Session
