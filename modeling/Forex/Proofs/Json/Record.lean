import Forex.Json.Record
import Forex.Proofs.Entries
import Forex.Proofs.Json.Document

namespace Forex.Json

variable {α β : Type}

def Reads (decode : Decoder α) (j : Json) (a : α) : Prop := ∀ d, Shows j d → decode d = .ok a

theorem reads_bool (b : Bool) : Reads decodeBool (.bool b) b
  | _, .bool _ => rfl

theorem reads_string (s : String) : Reads decodeString (.string s) s
  | _, .string h => h

theorem reads_value (s : String) : Reads Document.value (.string s) (.string s)
  | _, .string h => by rw [Document.value, h]; rfl

theorem reads_int {least greatest k : Int} {expected : String} (h : least ≤ k ∧ k ≤ greatest) :
    Reads (decodeInt least greatest expected) (.number (.integer k)) k
  | _, .integer hn => by
    simp only [decodeInt, hn]
    exact if_pos h

theorem reads_uint32 (n : UInt32) : Reads decodeUInt32 (ofNat n.toNat) n := by
  intro d hd
  have hlt := n.toNat_lt
  have h32 : (twoTo 32 : Int) = 4294967296 := by decide
  rw [decodeUInt32, reads_int (k := n.toNat) (by omega) d hd]
  exact congrArg Except.ok UInt32.ofNat_toNat

theorem reads_int32 (n : Int32) : Reads decodeInt32 (ofInt n.toInt) n := by
  intro d hd
  have hle := n.le_toInt
  have hlt := n.toInt_lt
  have h31 : (twoTo 31 : Int) = 2147483648 := by decide
  rw [decodeInt32, reads_int (k := n.toInt) (by omega) d hd]
  exact congrArg Except.ok (Int32.ofInt_toInt n)

theorem reads_list {item : Decoder α} {toJson : α → Json} {as : List α}
    (h : ∀ a ∈ as, Reads item (toJson a) a) :
    Reads (decodeList item) (.array (as.map toJson)) as
  | _, .array hds => by
    have hitems : ∀ ds, List.Forall₂ Shows (as.map toJson) ds → decodeItems item ds = .ok as := by
      clear hds
      induction as with
      | nil =>
        rintro _ ⟨⟩
        rfl
      | cons a as ih =>
        rintro _ (_ | ⟨hd, hds⟩)
        obtain ⟨ha, has⟩ := List.forall_mem_cons.1 h
        rw [decodeItems, ha _ hd, ih has _ hds]
        rfl
    rw [decodeList, hitems _ hds]
    rfl

namespace Fields

def names : {α : Type} → Fields α → List String
  | _, nil _ => []
  | _, snoc fields f => f.name :: fields.names

/-- Each field is given a value that it reads; `a` is the record. The last field stands first. -/
inductive Given : {α : Type} → Fields α → List (String × Json) → α → Prop
  | nil {α : Type} (make : α) : Given (.nil make) [] make
  | snoc {α β : Type} {fields : Fields (β → α)} {f : Field β} {entries : List (String × Json)}
      {make : β → α} {j : Json} {b : β} (h : Given fields entries make) (hf : Reads f.decode j b) :
      Given (fields.snoc f) ((f.name, j) :: entries) (make b)

inductive Found : {α : Type} → Fields α → List (String × Document) → α → Prop
  | nil {α : Type} (make : α) : Found (.nil make) [] make
  | snoc {α β : Type} {fields : Fields (β → α)} {f : Field β} {known : List (String × Document)}
      {make : β → α} {d : Document} {b : β} (h : Found fields known make)
      (hf : f.decode d = .ok b) : Found (fields.snoc f) ((f.name, d) :: known) (make b)

theorem Given.found {fields : Fields α} {entries : List (String × Json)} {a : α}
    (h : Given fields entries a) {known : List (String × Document)}
    (hknown : List.Forall₂ (fun e k ↦ e.1 = k.1 ∧ Shows e.2 k.2) entries known) :
    Found fields known a := by
  induction h generalizing known with
  | nil make =>
    cases hknown
    exact .nil make
  | snoc _ hf ih =>
    rcases hknown with _ | @⟨_, ⟨_, d⟩, _, _, ⟨rfl, hd⟩, hknown⟩
    exact .snoc (ih hknown) (hf d hd)

theorem Found.names_eq {fields : Fields α} {known : List (String × Document)} {a : α}
    (h : Found fields known a) : known.map (·.1) = fields.names := by
  induction h with
  | nil => rfl
  | snoc _ _ ih => exact congrArg _ ih

theorem Found.check? {fields : Fields α} {known : List (String × Document)} {a : α}
    (h : Found fields known a) (hnames : fields.names.Nodup) {name : String} {d : Document}
    (hd : (name, d) ∈ known) : fields.check? name d = some (.ok ()) := by
  induction h with
  | nil => cases hd
  | @snoc _ _ fields f known _ _ _ hfound hf ih =>
    rw [names, List.nodup_cons] at hnames
    rw [Fields.check?]
    rcases List.mem_cons.1 hd with hd | hd
    · obtain ⟨rfl, rfl⟩ := Prod.mk.inj hd
      rw [if_pos rfl, hf]
      rfl
    · have hname : name ∈ fields.names := by
        rw [← hfound.names_eq]
        exact List.mem_map_of_mem hd
      rw [if_neg fun he : f.name = name ↦ hnames.1 (he ▸ hname)]
      exact ih hnames.2 hd

theorem Found.ofMembers {fields : Fields α} {known : List (String × Document)} {a : α}
    (h : Found fields known a) {members : List (String × Document)}
    (hmembers : ∀ name d, (name, d) ∈ known → members.lookup name = some d) :
    fields.ofMembers members = .ok a := by
  induction h with
  | nil => rfl
  | snoc _ hf ih =>
    rw [Fields.ofMembers, ih fun name d hd ↦ hmembers name d (List.mem_cons_of_mem _ hd)]
    simp only [hmembers _ _ List.mem_cons_self]
    change (do let b ← _; pure _ : Except Error _) = _
    rw [hf]
    rfl

theorem Found.collect {fields : Fields α} {known : List (String × Document)} {a : α}
    (h : Found fields known a) (hnames : fields.names.Nodup)
    {before after : List (String × Document)} {ms : List (Literal × Document)}
    (hknown : known = after.reverse ++ before)
    (hms : List.Forall₂ (fun e m ↦ m.1.read = .ok e.1 ∧ e.2 = m.2) after ms) :
    fields.collect before ms = .ok known := by
  induction hms generalizing before with
  | nil => rw [hknown]; rfl
  | @cons e m after ms hm _ ih =>
    obtain ⟨name, d⟩ := e
    obtain ⟨key, d'⟩ := m
    obtain ⟨hkey, rfl⟩ : key.read = .ok name ∧ d = d' := hm
    rw [List.reverse_cons, List.append_assoc, List.singleton_append] at hknown
    have hmem : (name, d) ∈ known := by rw [hknown]; simp
    have hcheck := h.check? hnames hmem
    have hfresh : before.lookup name = none := by
      rw [← h.names_eq, hknown, List.map_append, List.map_cons, List.nodup_append,
        List.nodup_cons] at hnames
      rw [List.lookup_eq_none_iff]
      intro e he
      have hne : name ≠ e.1 := fun heq ↦ hnames.2.1.1 (List.mem_map.2 ⟨e, he, heq.symm⟩)
      simpa using hne
    simp only [Fields.collect, hkey, hcheck, hfresh, bind, Except.bind, Option.isSome_none,
      Bool.false_eq_true, if_false]
    exact ih hknown

theorem exists_named {entries : List (String × Json)} {ms : List (Literal × Document)}
    (hkeys : List.Forall₂ (fun e m ↦ m.1.read = .ok e.1) entries ms)
    (hshows : List.Forall₂ (fun e m ↦ Shows e.2 m.2) entries ms) :
    ∃ named : List (String × Document),
      List.Forall₂ (fun e k ↦ e.1 = k.1 ∧ Shows e.2 k.2) entries named ∧
      List.Forall₂ (fun k m ↦ m.1.read = .ok k.1 ∧ k.2 = m.2) named ms := by
  induction hkeys with
  | nil => exact ⟨[], .nil, .nil⟩
  | @cons e m _ _ hkey _ ih =>
    rcases hshows with _ | ⟨hshow, hshows⟩
    obtain ⟨named, hentries, hms⟩ := ih hshows
    exact ⟨(e.1, m.2) :: named, .cons ⟨rfl, hshow⟩ hentries, .cons ⟨hkey, rfl⟩ hms⟩

/-- A record is read off the object that gives each field once, in the order of the fields. -/
theorem Given.reads {fields : Fields α} {entries : List (String × Json)} {a : α}
    (h : Given fields entries a) (hnames : fields.names.Nodup) (record : String) :
    Reads (fields.decode record) (.object entries.reverse) a
  | _, .object hkeys hshows => by
    obtain ⟨named, hnamed, hms⟩ := exists_named hkeys hshows
    rw [← List.forall₂_reverse_iff, List.reverse_reverse] at hnamed
    have hfound := h.found hnamed
    have hcollect := hfound.collect hnames (List.append_nil _).symm hms
    rw [Fields.decode, hcollect]
    refine hfound.ofMembers fun name d hd ↦ lookup_of_nodup ?_ hd
    rw [hfound.names_eq]
    exact hnames

end Fields

theorem decodeText_toPretty {decode : Decoder α} {j : Json} {a : α} (hj : Plain maxDepth j)
    (h : Reads decode j a) : decodeText decode j.toPretty = .ok a := by
  obtain ⟨d, hd, htext⟩ := exists_ofText_toPretty hj
  rw [decodeText, htext]
  simp only [h d hd]
  rfl

end Forex.Json
