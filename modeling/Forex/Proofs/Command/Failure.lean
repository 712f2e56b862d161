import Forex.Proofs.Command.Administration
import Mathlib.Data.List.Infix

namespace Forex

theorem infix_intercalate_of_mem {α : Type} {x : List α} {xs : List (List α)} (sep : List α)
    (h : x ∈ xs) : x <:+: sep.intercalate xs := by
  induction xs with
  | nil => cases h
  | cons y ys ih =>
    by_cases hys : ys = []
    · subst hys
      obtain rfl := List.mem_singleton.1 h
      rw [List.intercalate_singleton]
    · rw [List.intercalate_cons_of_ne_nil hys]
      rcases List.mem_cons.1 h with rfl | h
      · exact ⟨[], sep ++ sep.intercalate ys, by simp⟩
      · exact List.infix_append_of_infix_right (ih h)

def Failure.Mentions (f : Failure) (s : String) : Prop := s.toList <:+: f.message.toList

instance (f : Failure) (s : String) : Decidable (f.Mentions s) :=
  inferInstanceAs (Decidable (_ <:+: _))

namespace Cause

/-- Causes that are reported in words of their own. -/
def hasOwnWords : Cause → Bool
  | failure _ | rates _ | currency _ | registry _ | fileSourceRequired _ | snapshotExists _ => true
  | document _ | file _ | other _ => false

def toFailure : Cause → Failure
  | failure f => f
  | rates e => e.toFailure
  | currency e => e.toFailure
  | registry e => e.toFailure
  | fileSourceRequired command => ⟨.configuration, (fileSourceRequired command).message⟩
  | snapshotExists path => ⟨.conflict, (snapshotExists path).message⟩
  | document e => ⟨.validation, e.message⟩
  | file e => ⟨.internal, e.message⟩
  | other message => ⟨.internal, message⟩

def wrapped (c : Cause) (contexts : List String) : CommandError :=
  contexts.foldr CommandError.withContext { cause := c }

theorem wrapped_eq (c : Cause) (contexts : List String) : c.wrapped contexts = ⟨c, contexts⟩ := by
  induction contexts with
  | nil => rfl
  | cons s contexts ih =>
    rw [wrapped, List.foldr_cons, ← wrapped, ih]
    rfl

end Cause

namespace CommandError

variable {e : CommandError} {s : String}

theorem toFailure_eq (e : CommandError) :
    e.toFailure =
      if e.cause.hasOwnWords then e.cause.toFailure
      else ⟨e.cause.toFailure.kind, e.description⟩ := by
  obtain ⟨cause, contexts⟩ := e
  cases cause <;> rfl

theorem kind_toFailure (e : CommandError) : e.toFailure.kind = e.cause.toFailure.kind := by
  rw [toFailure_eq]
  split <;> rfl

theorem infix_description (hs : s ∈ e.contexts) : s.toList <:+: e.description.toList := by
  rw [description, String.toList_intercalate]
  refine infix_intercalate_of_mem _ (List.mem_map_of_mem ?_)
  exact List.mem_append_left _ hs

def TellsContexts (e : CommandError) : Prop := ∀ s ∈ e.contexts, e.toFailure.Mentions s

instance (e : CommandError) : Decidable e.TellsContexts :=
  inferInstanceAs (Decidable (∀ s ∈ e.contexts, e.toFailure.Mentions s))

theorem tellsContexts_of_no_words (h : e.cause.hasOwnWords = false) : e.TellsContexts := by
  intro s hs
  rw [toFailure_eq, h, Failure.Mentions, Failure.message, String.toList_append]
  exact List.infix_append_of_infix_right (infix_description hs)

theorem tellsContexts_of_no_contexts (h : e.contexts = []) : e.TellsContexts := by
  intro s hs
  rw [h] at hs
  cases hs

end CommandError

namespace Action

variable {α β ε : Type} {x : Action (StateM World) α} {g : α → Action (StateM World) β}

def TellsContexts (x : Action (StateM World) α) : Prop :=
  ∀ w e w', x.run.run w = (.error (.refused e), w') → e.TellsContexts

namespace TellsContexts

theorem pure (a : α) : TellsContexts (Pure.pure a) := by
  intro w e w' h
  cases h

theorem refused {e : CommandError} (he : e.TellsContexts) :
    TellsContexts (throw (.refused e) : Action (StateM World) α) := by
  intro w e' w' h
  cases h
  exact he

theorem outOfRange (f : Decimal.Fault) :
    TellsContexts (throw (.outOfRange f) : Action (StateM World) α) := by
  intro w e w' h
  cases h

theorem bind (hx : TellsContexts x) (hg : ∀ a, TellsContexts (g a)) : TellsContexts (x >>= g) := by
  intro w e w' h
  cases hrun : x.run.run w with
  | mk result w₁ =>
    cases result with
    | ok a =>
      rw [run_bind_ok hrun] at h
      exact hg a _ _ _ h
    | error e₁ =>
      rw [run_bind_error hrun] at h
      cases h
      exact hx _ _ _ hrun

theorem lift (call : StateM World α) : TellsContexts (ExceptT.lift call) := by
  intro w e w' h
  rw [run_lift (Prod.mk.eta (p := call.run w)).symm] at h
  cases h

theorem fail (c : Cause) : TellsContexts (Action.fail c : Action (StateM World) α) :=
  refused (CommandError.tellsContexts_of_no_contexts rfl)

theorem ofResult (f : ε → Cause) (r : Except ε α) :
    TellsContexts (Action.ofResult f r : Action (StateM World) α) := by
  cases r with
  | ok a => exact pure a
  | error e => exact fail (f e)

theorem ofCall (f : ε → Cause) (call : StateM World (Except ε α)) :
    TellsContexts (Action.ofCall f call) :=
  (lift call).bind (ofResult f)

theorem ofAborted (f : ε → Cause) (r : Except (Abort ε) α) :
    TellsContexts (Action.ofAborted f r : Action (StateM World) α) := by
  cases r with
  | ok a => exact pure a
  | error e =>
    cases e with
    | refused e => exact fail (f e)
    | outOfRange e => exact outOfRange e

theorem ofArithmetic (r : Except Decimal.Fault α) :
    TellsContexts (Action.ofArithmetic r : Action (StateM World) α) := by
  cases r with
  | ok a => exact pure a
  | error e => exact outOfRange e

end TellsContexts

end Action

namespace Command

open Forex.Action (TellsContexts)

variable (host : Host (StateM World)) (config : Config)

theorem tellsContexts_loadStore : TellsContexts (loadStore host config) := by
  unfold loadStore
  refine (TellsContexts.ofResult _ _).bind fun provider ↦ ?_
  refine (TellsContexts.lift _).bind fun result ↦ ?_
  exact (TellsContexts.ofResult _ _).bind fun _ ↦ TellsContexts.pure _

theorem tellsContexts_readFee (arg : String) : TellsContexts (readFee host arg) := by
  have hunread (e : FileError) : CommandError.TellsContexts
      (.withContext ("Failed to read fee schedule " ++ arg) { cause := .file e }) :=
    CommandError.tellsContexts_of_no_words rfl
  unfold readFee
  dsimp only
  split
  case' isTrue => refine (TellsContexts.pure arg).bind fun text ↦ ?_
  case' isFalse =>
    refine (TellsContexts.lift _).bind fun result ↦ ?_
    cases result
    case' ok text => refine (TellsContexts.pure text).bind fun text ↦ ?_
    case' error e => refine (TellsContexts.refused (hunread e)).bind fun text ↦ ?_
  -- However the text was come by, it is decoded.
  all_goals
    split
    · exact TellsContexts.pure _
    · exact TellsContexts.refused (CommandError.tellsContexts_of_no_words rfl)

theorem tellsContexts_editSnapshot (command : String) (edit : Registry.Edit Unit) :
    TellsContexts (editSnapshot host config command edit) := by
  unfold editSnapshot
  dsimp only
  split
  case' isTrue => refine (TellsContexts.fail _).bind fun _ ↦ ?_
  all_goals
    refine (TellsContexts.ofCall _ _).bind fun snapshot ↦ ?_
    split
    · exact TellsContexts.ofCall _ _
    · exact TellsContexts.ofAborted _ _

theorem tellsContexts_createSnapshot (path : String) :
    TellsContexts (createSnapshot host path) := by
  unfold createSnapshot
  refine (TellsContexts.lift _).bind fun isThere ↦ ?_
  dsimp only
  split
  case isTrue => exact (TellsContexts.fail _).bind fun _ ↦ TellsContexts.ofCall _ _
  case isFalse => exact TellsContexts.ofCall _ _

theorem tellsContexts_run (json : Bool) (c : Command) : TellsContexts (c.run host config json) := by
  have hedit (command : String) (edit : Registry.Edit Unit) (lines : List String) :
      TellsContexts (do editSnapshot host config command edit; return lines) :=
    (tellsContexts_editSnapshot host config command edit).bind fun _ ↦ TellsContexts.pure lines
  cases c with
  | rates => exact (tellsContexts_loadStore host config).bind fun _ ↦ TellsContexts.pure _
  | convert amount source target strict =>
    refine (tellsContexts_loadStore host config).bind fun store ↦ ?_
    refine (TellsContexts.ofResult _ _).bind fun converter ↦ ?_
    exact (TellsContexts.ofAborted _ _).bind fun _ ↦ TellsContexts.pure _
  | format amount precision rounding => exact TellsContexts.pure _
  | markup value fee =>
    refine (tellsContexts_readFee host fee).bind fun schedule ↦ ?_
    exact (TellsContexts.ofArithmetic _).bind fun _ ↦ TellsContexts.pure _
  | setRate e => exact hedit _ _ _
  | deleteRate p => exact hedit _ _ _
  | setDefault id => exact hedit _ _ _
  | init path =>
    exact (tellsContexts_createSnapshot host _).bind fun _ ↦ TellsContexts.pure _

end Command

/-- Under any contexts a cause comes to the class of failure that it has alone, and with it to the
code and the exit status. A cause that has words of its own comes to the same failure as alone, so
that it tells the contexts only if these words happen to mention them; any other cause tells all of
its contexts. When a command fails, all contexts are told. -/
theorem failure_of_wrapped (c : Cause) (contexts : List String) :
    let e := c.wrapped contexts
    e.toFailure.code = c.toFailure.code ∧
    e.toFailure.exitCode = c.toFailure.exitCode ∧
    (c.hasOwnWords = true → e.toFailure = c.toFailure) ∧
    (e.TellsContexts ↔ (c.hasOwnWords = true → ∀ s ∈ contexts, c.toFailure.Mentions s)) ∧
    ∀ (config : Config) (i : Invocation) (w w' : World),
      (i.run World.host config).run w = (.error (.refused e), w') → e.TellsContexts := by
  intro e
  have he : e = ⟨c, contexts⟩ := c.wrapped_eq contexts
  have hkind : e.toFailure.kind = c.toFailure.kind := by rw [e.kind_toFailure, he]
  have hsame (hwords : c.hasOwnWords = true) : e.toFailure = c.toFailure := by
    rw [he, CommandError.toFailure_eq, if_pos hwords]
  refine ⟨congrArg FailureClass.code hkind, congrArg FailureClass.exitCode hkind, hsame, ?_,
    fun config i w w' ↦ Command.tellsContexts_run World.host config i.json i.command w e w'⟩
  constructor
  · intro htells hwords s hs
    rw [← hsame hwords]
    rw [he] at htells ⊢
    exact htells s hs
  · intro hmentions
    cases hwords : c.hasOwnWords with
    | true =>
      intro s hs
      rw [hsame hwords]
      rw [he] at hs
      exact hmentions hwords s hs
    | false =>
      rw [he]
      exact CommandError.tellsContexts_of_no_words hwords

def markupByMissing : Invocation := { command := .markup .one "fee.json", json := false }

theorem run_readText_missing :
    (World.host.readText "fee.json").run Administration.sampleWorld =
      (.error .notFound, Administration.sampleWorld) := by
  have hresolve : Administration.sampleWorld.files.resolve "fee.json" = .error .notFound := by
    decide +kernel
  have hread : Administration.sampleWorld.files.read "fee.json" = .error .notFound := by
    rw [FileTree.read, hresolve]
    rfl
  change ((Administration.sampleWorld.files.read "fee.json").bind readText, _) = _
  rw [hread]
  rfl

theorem failure_of_wrapped_missing :
    (markupByMissing.run World.host {}).run Administration.sampleWorld =
      (.error (.refused ((Cause.file .notFound).wrapped ["Failed to read fee schedule fee.json"])),
        Administration.sampleWorld) ∧
    ((Cause.file .notFound).wrapped ["Failed to read fee schedule fee.json"]).TellsContexts ∧
    ((Cause.currency .noDefaultCurrency).wrapped ["first", "second"]).toFailure =
      (Cause.currency .noDefaultCurrency).toFailure := by
  have hrun : (markupByMissing.run World.host {}).run Administration.sampleWorld =
      (.error (.refused ((Cause.file .notFound).wrapped ["Failed to read fee schedule fee.json"])),
        Administration.sampleWorld) := by
    refine Action.run_bind_error ?_
    rw [Command.readFee]
    dsimp only
    rw [if_neg (by decide), Action.run_bind_ok (Action.run_lift run_readText_missing)]
    rfl
  obtain ⟨-, -, -, -, hcommands⟩ := failure_of_wrapped (.file .notFound) _
  obtain ⟨-, -, hsame, -⟩ := failure_of_wrapped (.currency .noDefaultCurrency) ["first", "second"]
  exact ⟨hrun, hcommands _ _ _ _ hrun, hsame rfl⟩

theorem lost_context_of_noDefaultCurrency :
    ¬((Cause.currency .noDefaultCurrency).wrapped ["converting 10 EUR"]).TellsContexts := by
  decide

end Forex
