import Forex.Command.Run
import Forex.Proofs.Provider.SnapshotFile

namespace Forex

namespace Action

variable {α β ε : Type} {x : Action (StateM World) α} {g : α → Action (StateM World) β}
  {w w' : World}

theorem run_bind_ok {a : α} (h : x.run.run w = (.ok a, w')) :
    (x >>= g).run.run w = (g a).run.run w' := by
  rw [ExceptT.run_bind, StateT.run_bind, h]
  rfl

theorem run_bind_error {e : Abort CommandError} (h : x.run.run w = (.error e, w')) :
    (x >>= g).run.run w = (.error e, w') := by
  rw [ExceptT.run_bind, StateT.run_bind, h]
  rfl

theorem run_lift {call : StateM World α} {a : α} (h : call.run w = (a, w')) :
    (ExceptT.lift call : Action (StateM World) α).run.run w = (.ok a, w') := by
  rw [ExceptT.run_lift, StateT.run_map, h]
  rfl

theorem run_ofResult_ok (f : ε → Cause) (a : α) (w : World) :
    (Action.ofResult f (.ok a) : Action (StateM World) α).run.run w = (.ok a, w) := rfl

theorem run_ofCall_ok {f : ε → Cause} {call : StateM World (Except ε α)} {a : α}
    (h : call.run w = (.ok a, w')) : (Action.ofCall f call).run.run w = (.ok a, w') := by
  rw [Action.ofCall, run_bind_ok (run_lift h), run_ofResult_ok]

end Action

namespace Command

variable {config : Config} {w : World} {s : Snapshot} {edit : Registry.Edit Unit} {r : Registry}

theorem run_editSnapshot (hsource : config.rates.source = .file)
    (h : SnapshotFile.Holds ⟨config.rates.path⟩ w s) (command : String) :
    (editSnapshot World.host config command edit).run.run w =
      (match edit.run s.toRegistry with
        | .ok _ r =>
          Action.ofCall .rates (SnapshotFile.save World.host ⟨config.rates.path⟩ (.ofRegistry r))
        | .error e _ => Action.ofAborted .registry (.error e)).run.run w := by
  rw [editSnapshot, if_neg (not_not_intro hsource)]
  dsimp only
  exact Action.run_bind_ok (Action.run_ofCall_ok h.run_load)

theorem exists_editSnapshot (hsource : config.rates.source = .file)
    (h : SnapshotFile.Holds ⟨config.rates.path⟩ w s) (hedit : edit.run s.toRegistry = .ok () r)
    (command : String) :
    ∃ w', (editSnapshot World.host config command edit).run.run w = (.ok (), w') ∧
      SnapshotFile.Holds ⟨config.rates.path⟩ w' (.ofRegistry r) := by
  obtain ⟨w', hsave, hholds⟩ := h.exists_save r
  refine ⟨w', ?_, hholds⟩
  rw [run_editSnapshot hsource h command, hedit]
  exact Action.run_ofCall_ok hsave

theorem editSnapshot_of_error (hsource : config.rates.source = .file)
    (h : SnapshotFile.Holds ⟨config.rates.path⟩ w s) {e : Abort RegistryError}
    (hedit : edit.run s.toRegistry = .error e r) (command : String) :
    ∃ e', (editSnapshot World.host config command edit).run.run w = (.error e', w) := by
  rw [run_editSnapshot hsource h command, hedit]
  cases e with
  | refused e => exact ⟨_, rfl⟩
  | outOfRange e => exact ⟨_, rfl⟩

end Command

inductive Administration
  | setRate (rate : ExchangeRate)
  | deleteRate (pair : Pair)
  | setDefault (id : Int32)

namespace Administration

def command : Administration → Command
  | setRate e => .setRate e
  | deleteRate p => .deleteRate p
  | setDefault id => .setDefault id

def change (r : Registry) : Administration → Registry.Change
  | setRate e => if (r.rates.get? e.pair).isSome then .updateRate e else .createRate e
  | deleteRate p => .deleteRate p
  | setDefault id => .changeDefault id

def apply (r : Registry) (a : Administration) : Registry :=
  match (a.change r).edit.run r with
  | .ok _ s => s
  | .error _ _ => r

def execute (config : Config) (w : World) (a : Administration) (json : Bool) :
    Except (Abort CommandError) (List String) × World :=
  (Invocation.run World.host config { command := a.command, json }).run w

def executeAll (config : Config) (commands : List (Administration × Bool)) (w : World) : World :=
  commands.foldl (fun w c ↦ (execute config w c.1 c.2).2) w

variable {config : Config} {w : World} {s : Snapshot} {r r' : Registry}

theorem exists_run_eq (config : Config) (a : Administration) (json : Bool) :
    ∃ name edit lines, (∀ r, edit.run r = (a.change r).edit.run r) ∧
      a.command.run World.host config json =
        (do Command.editSnapshot World.host config name edit; return lines) := by
  cases a with
  | setRate e =>
    refine ⟨_, _, _, fun r ↦ ?_, rfl⟩
    simp only [Registry.setRate, EStateM.run_bind, EStateM.run_get, Registry.run_ite, change]
    split <;> rfl
  | deleteRate p => exact ⟨_, _, _, fun _ ↦ rfl, rfl⟩
  | setDefault id => exact ⟨_, _, _, fun _ ↦ rfl, rfl⟩

theorem exists_execute (hsource : config.rates.source = .file)
    (h : SnapshotFile.Holds ⟨config.rates.path⟩ w s) (a : Administration) (json : Bool)
    (hok : (a.change s.toRegistry).edit.run s.toRegistry = .ok () r) :
    ∃ lines w', execute config w a json = (.ok lines, w') ∧
      SnapshotFile.Holds ⟨config.rates.path⟩ w' (.ofRegistry r) := by
  obtain ⟨name, edit, lines, hedit, hrun⟩ := exists_run_eq config a json
  obtain ⟨w', hw', hholds⟩ :=
    Command.exists_editSnapshot hsource h ((hedit _).trans hok) name
  refine ⟨lines, w', ?_, hholds⟩
  rw [execute, Invocation.run, hrun, Action.run_bind_ok hw']
  rfl

theorem execute_of_error (hsource : config.rates.source = .file)
    (h : SnapshotFile.Holds ⟨config.rates.path⟩ w s) (a : Administration) (json : Bool)
    {e : Abort RegistryError}
    (herror : (a.change s.toRegistry).edit.run s.toRegistry = .error e r) :
    ∃ e', execute config w a json = (.error e', w) := by
  obtain ⟨name, edit, lines, hedit, hrun⟩ := exists_run_eq config a json
  obtain ⟨e', he'⟩ := Command.editSnapshot_of_error hsource h ((hedit _).trans herror) name
  exact ⟨e', by rw [execute, Invocation.run, hrun, Action.run_bind_error he']⟩

theorem change_of_unsignZeros_eq (h : r.unsignZeros = r'.unsignZeros) (a : Administration) :
    a.change r = a.change r' := by
  cases a with
  | setRate e =>
    have hedge := RateTable.isSome_get?_of_unsignZeros_eq (congrArg (·.rates) h) e.pair
    simp only [change, hedge]
  | deleteRate p => rfl
  | setDefault id => rfl

theorem any_isNeutral_of_step {a : Administration} (h : Registry.Step r (a.change r) r')
    (hr : r.currencies.any (·.isNeutral)) : r'.currencies.any (·.isNeutral) := by
  cases a with
  | setRate e =>
    have hc : change r (.setRate e) = .updateRate e ∨ change r (.setRate e) = .createRate e :=
      ite_eq_or_eq ..
    rcases hc with hc | hc
    · rw [hc] at h
      cases h
      exact hr
    · rw [hc] at h
      cases h
      exact hr
  | deleteRate p =>
    cases h
    exact hr
  | setDefault id =>
    cases h
    rw [Registry.withDefault, List.any_map]
    exact hr

theorem any_isNeutral_toRegistry (s : Snapshot) :
    s.toRegistry.currencies.any (·.isNeutral) := by
  rw [Snapshot.toRegistry, Registry.ofParts]
  split
  case isTrue h => exact h
  case isFalse => rfl

/-- The snapshot in the file is that of the registry, up to the signs of zeros. -/
def Tracks (config : Config) (w : World) (r : Registry) : Prop :=
  ∃ s, SnapshotFile.Holds ⟨config.rates.path⟩ w s ∧ s.toRegistry.unsignZeros = r.unsignZeros

/-- A command on the file goes as the change of the registry that the file tracks. -/
theorem Tracks.execute (hsource : config.rates.source = .file) (h : Tracks config w r)
    (a : Administration) (json : Bool) :
    (∃ r' lines w', (a.change r).edit.run r = .ok () r' ∧
      execute config w a json = (.ok lines, w') ∧ Tracks config w' r') ∨
    ∃ e r' e', (a.change r).edit.run r = .error e r' ∧
      execute config w a json = (.error e', w) := by
  obtain ⟨s, hs, heq⟩ := h
  have hchange := change_of_unsignZeros_eq heq a
  cases hrun : (a.change r).edit.run r with
  | ok u r' =>
    obtain ⟨r'', hstep, heq'⟩ := (Registry.step_of_run_eq_ok hrun).of_unsignZeros_eq heq.symm
    rw [← hchange] at hstep
    obtain ⟨lines, w', hexecute, hholds⟩ := exists_execute hsource hs a json hstep.run_eq_ok
    refine .inl ⟨r', lines, w', rfl, hexecute, _, hholds, ?_⟩
    have hneutral := any_isNeutral_of_step hstep (any_isNeutral_toRegistry s)
    rw [Snapshot.toRegistry_ofRegistry hneutral, Registry.unsignZeros_unsignZeros, heq']
  | error e r' =>
    cases hfile : (a.change s.toRegistry).edit.run s.toRegistry with
    | ok u r'' =>
      -- What the file allows, the registry allows as well.
      obtain ⟨r₀, hstep, -⟩ := (Registry.step_of_run_eq_ok hfile).of_unsignZeros_eq heq
      rw [hchange] at hstep
      rw [hstep.run_eq_ok] at hrun
      cases hrun
    | error e₀ r₀ =>
      obtain ⟨e', hexecute⟩ := execute_of_error hsource hs a json hfile
      exact .inr ⟨e, r', e', rfl, hexecute⟩

theorem Tracks.executeAll (hsource : config.rates.source = .file)
    (commands : List (Administration × Bool)) (h : Tracks config w r) :
    Tracks config (executeAll config commands w) ((commands.map (·.1)).foldl apply r) := by
  induction commands generalizing w r with
  | nil => exact h
  | cons c commands ih =>
    obtain ⟨r', lines, w', hrun, hexecute, h'⟩ | ⟨e, r', e', hrun, hexecute⟩ :=
      h.execute hsource c.1 c.2
    · have happly : apply r c.1 = r' := by rw [apply, hrun]
      simp only [executeAll, List.map_cons, List.foldl_cons, hexecute, happly]
      exact ih h'
    · have happly : apply r c.1 = r := by rw [apply, hrun]
      simp only [executeAll, List.map_cons, List.foldl_cons, hexecute, happly]
      exact ih h

/-- Commands on the file do what their changes do to the registry that it held at first: the file
always holds the registry that the changes lead to. A command fails exactly if its change does, and
then nothing is written. -/
theorem file_simulates_registry (hsource : config.rates.source = .file)
    (hfile : SnapshotFile.Holds ⟨config.rates.path⟩ w s)
    (commands : List (Administration × Bool)) :
    let w' := executeAll config commands w
    let r := (commands.map (·.1)).foldl apply s.toRegistry
    (∃ s', SnapshotFile.Holds ⟨config.rates.path⟩ w' s' ∧ s'.toRegistry.Same r) ∧
    ∀ (a : Administration) (json : Bool),
      match (a.change r).edit.run r with
      | .ok _ _ => ∃ lines, (execute config w' a json).1 = .ok lines
      | .error _ _ => ∃ e, execute config w' a json = (.error e, w') := by
  have h : Tracks config w s.toRegistry := ⟨s, hfile, rfl⟩
  have h' := h.executeAll hsource commands
  refine ⟨?_, fun a json ↦ ?_⟩
  · obtain ⟨s', hs', heq⟩ := h'
    exact ⟨s', hs', Registry.same_of_unsignZeros_eq heq⟩
  · obtain ⟨r', lines, w', hrun, hexecute, -⟩ | ⟨e, r', e', hrun, hexecute⟩ :=
      h'.execute hsource a json
    · rw [hrun]
      exact ⟨lines, by rw [hexecute]⟩
    · rw [hrun]
      exact ⟨e', hexecute⟩

def sampleWorld : World where
  files := .directory [
    ("rates.json", .file (Snapshot.ofRegistry Snapshot.sampleRegistry).toText.toUTF8)]
  service := { host := "", port := 0 }
  now := ⟨0⟩

def sampleCommands : List (Administration × Bool) := [
  (.setRate { pair := ⟨.neutral, .neutral⟩, rate := .hundred }, false),
  (.deleteRate ⟨.neutral, .ofText "USD"⟩, true),
  (.setDefault 0, false),
  (.setDefault (-7), true)]

theorem holds_sampleWorld :
    SnapshotFile.Holds ⟨"rates.json"⟩ sampleWorld (.ofRegistry Snapshot.sampleRegistry) :=
  SnapshotFile.holds_of_read (FileTree.read_eq_ok_iff.2
    ⟨["rates.json"], by decide +kernel, by decide +kernel, rfl⟩)

theorem file_simulates_registry_sampleWorld :
    SnapshotFile.Holds ⟨"rates.json"⟩ sampleWorld (.ofRegistry Snapshot.sampleRegistry) ∧
    ((sampleCommands.map (·.1)).foldl apply
        (Snapshot.ofRegistry Snapshot.sampleRegistry).toRegistry).rates.edges.map (·.pair) =
      [⟨.ofText "EUR", .neutral⟩, ⟨.neutral, .ofText "EUR"⟩, ⟨.neutral, .neutral⟩] ∧
    ∃ s, SnapshotFile.Holds ⟨"rates.json"⟩ (executeAll {} sampleCommands sampleWorld) s ∧
      s.toRegistry.Same ((sampleCommands.map (·.1)).foldl apply
        (Snapshot.ofRegistry Snapshot.sampleRegistry).toRegistry) :=
  have h : ({} : Config).rates.source = .file := rfl
  ⟨holds_sampleWorld, by decide +kernel,
    (file_simulates_registry h holds_sampleWorld sampleCommands).1⟩

end Administration

end Forex
