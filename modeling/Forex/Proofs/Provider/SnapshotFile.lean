import Forex.Proofs.Files.Overwrite
import Forex.Proofs.Snapshot.RoundTrip
import Forex.Provider.SnapshotFile

namespace Forex

theorem World.run_write {w : World} {path text : String} {files : FileTree}
    (h : w.files.write path text.toUTF8 = .ok files) :
    (World.host.write path text).run w = (.ok (), { w with files }) := by
  simp only [World.host, modifyGet, MonadStateOf.modifyGet, StateT.modifyGet, StateT.run, h]
  rfl

namespace SnapshotFile

variable {f : SnapshotFile} {w : World} {s : Snapshot}

def Holds (f : SnapshotFile) (w : World) (s : Snapshot) : Prop :=
  ((f.load World.host).run w).1 = .ok s

theorem run_load (f : SnapshotFile) (w : World) :
    (f.load World.host).run w =
      (match (w.files.read f.path).bind readText with
        | .ok text => (Snapshot.ofText text).mapError .payload
        | .error e => .error (.file f.path e), w) := by
  change (match (w.files.read f.path).bind readText with
    | .ok text => _
    | .error e => _ : StateM World _).run w = _
  cases (w.files.read f.path).bind readText <;> rfl

theorem holds_iff :
    f.Holds w s ↔ ∃ text, (w.files.read f.path).bind readText = .ok text ∧
      Snapshot.ofText text = .ok s := by
  rw [Holds, run_load]
  cases (w.files.read f.path).bind readText with
  | error e => simp
  | ok text =>
    cases h : Snapshot.ofText text <;> simp [h, Except.mapError]

theorem Holds.run_load (h : f.Holds w s) : (f.load World.host).run w = (.ok s, w) := by
  rw [SnapshotFile.run_load]
  obtain ⟨text, htext, hs⟩ := holds_iff.1 h
  rw [htext]
  simp [hs, Except.mapError]

theorem holds_of_read {r : Registry}
    (h : w.files.read f.path = .ok (Snapshot.ofRegistry r).toText.toUTF8) :
    f.Holds w (.ofRegistry r) := by
  refine holds_iff.2 ⟨(Snapshot.ofRegistry r).toText, ?_, Snapshot.ofText_toText r⟩
  rw [h]
  exact readText_toUTF8 _

theorem Holds.exists_save (h : f.Holds w s) (r : Registry) :
    ∃ w', (f.save World.host (.ofRegistry r)).run w = (.ok (), w') ∧
      f.Holds w' (.ofRegistry r) := by
  obtain ⟨text, htext, -⟩ := holds_iff.1 h
  cases hread : w.files.read f.path with
  | error e =>
    rw [hread] at htext
    cases htext
  | ok content =>
    obtain ⟨files, hwrite, hread'⟩ :=
      FileTree.exists_write_of_read hread (Snapshot.ofRegistry r).toText.toUTF8
    refine ⟨{ w with files }, ?_, holds_of_read hread'⟩
    rw [save, StateT.run_bind, World.run_write hwrite]
    rfl

theorem run_provider (f : SnapshotFile) (w : World) (q : Request) :
    (f.provider World.host q).run w = (((f.load World.host).run w).1.bind (answer · q), w) := by
  rw [provider, StateT.run_bind, run_load]
  rfl

theorem Holds.run_provider (h : f.Holds w s) (q : Request) :
    (f.provider World.host q).run w = (answer s q, w) := by
  rw [SnapshotFile.run_provider, h]
  rfl

end SnapshotFile

end Forex
