import Forex.Proofs.Json.Record
import Forex.Proofs.Registry.Same
import Forex.Snapshot

namespace Forex

open Json (Fields IsWord Plain Reads)

theorem Json.isWord_int32 (n : Int32) : IsWord n.toInt := by
  have hle := n.le_toInt
  have hlt := n.toInt_lt
  have h63 : (twoTo 63 : Int) = 9223372036854775808 := by decide
  have h64 : (twoTo 64 : Int) = 18446744073709551616 := by decide
  exact ⟨by omega, by omega⟩

theorem Json.isWord_uint32 (n : UInt32) : IsWord n.toNat := by
  have hlt := n.toNat_lt
  have h63 : (twoTo 63 : Int) = 9223372036854775808 := by decide
  have h64 : (twoTo 64 : Int) = 18446744073709551616 := by decide
  exact ⟨by omega, by omega⟩

theorem Code.reads (c : Code) : Reads Code.decode c.toJson c := by
  intro d hd
  rw [Code.decode, Json.reads_string c.text d hd]
  exact congrArg Except.ok c.ofText_text

theorem Rounding.reads (r : Rounding) : Reads Rounding.decode (.string r.name) r
  | _, .string hl => by
    rw [Rounding.decode, hl]
    exact r.ofName_name

namespace Currency

variable (c : Currency)

theorem plain_toJson (room : Nat) : Plain (room + 1) c.toJson := by
  refine .object ?_
  simp only [List.forall_mem_cons, List.not_mem_nil, false_imp_iff, implies_true, and_true]
  exact ⟨.integer (Json.isWord_int32 c.id), .string _, .string _,
    .integer (Json.isWord_uint32 c.precision), .string _, .bool _, .bool _⟩

theorem reads : Reads Currency.decode c.toJson c := by
  have h : Fields.Given Currency.fields [
      ("default", .bool c.isDefault), ("public", .bool c.isPublic),
      ("rounding", .string c.rounding.name), ("precision", .ofNat c.precision.toNat),
      ("title", .string c.title), ("code", c.code.toJson), ("id", .ofInt c.id.toInt)] c :=
    Fields.Given.nil Currency.mk
      |>.snoc (Json.reads_int32 c.id)
      |>.snoc c.code.reads
      |>.snoc (Json.reads_string c.title)
      |>.snoc (Json.reads_uint32 c.precision)
      |>.snoc c.rounding.reads
      |>.snoc (Json.reads_bool c.isPublic)
      |>.snoc (Json.reads_bool c.isDefault)
  exact h.reads (by decide) "Currency"

end Currency

namespace RateRecord

variable (e : ExchangeRate)

theorem plain_ofRate (room : Nat) : Plain (room + 1) (ofRate e).toJson := by
  refine .object ?_
  simp only [List.forall_mem_cons, List.not_mem_nil, false_imp_iff, implies_true, and_true]
  exact ⟨.string _, .string _, .string _, .string _⟩

theorem reads_ofRate : Reads RateRecord.decode (ofRate e).toJson (ofRate e) := by
  have h : Fields.Given RateRecord.fields [
      ("commission", e.commission.toJson), ("rate", e.rate.toJson),
      ("to", e.pair.target.toJson), ("from", e.pair.source.toJson)] (ofRate e) :=
    Fields.Given.nil (fun source target rate commission ↦
        (⟨⟨source, target⟩, rate, commission⟩ : RateRecord))
      |>.snoc e.pair.source.reads
      |>.snoc e.pair.target.reads
      |>.snoc (Json.reads_value e.rate.toText)
      |>.snoc (Json.reads_value e.commission.toText)
  exact h.reads (by decide) "WireRate"

theorem toRate_ofRate : (ofRate e).toRate = e.unsignZeros := by
  simp only [toRate, ofRate, Decimal.ofJson, Decimal.toJson, Decimal.ofText_toText]
  rfl

end RateRecord

namespace Snapshot

variable (r : Registry)

theorem plain_ofRegistry (room : Nat) : Plain (room + 3) (ofRegistry r).toJson := by
  refine .object ?_
  simp only [List.forall_mem_cons, List.not_mem_nil, false_imp_iff, implies_true, and_true]
  refine ⟨.array ?_, .array ?_⟩
  · intro j hj
    obtain ⟨c, -, rfl⟩ := List.mem_map.1 hj
    exact c.plain_toJson room
  · intro j hj
    obtain ⟨d, hd, rfl⟩ := List.mem_map.1 hj
    obtain ⟨e, -, rfl⟩ := List.mem_map.1 hd
    exact RateRecord.plain_ofRate e room

theorem reads_ofRegistry : Reads Snapshot.decode (ofRegistry r).toJson (ofRegistry r) := by
  have hrates : ∀ d ∈ (ofRegistry r).rates, Reads RateRecord.decode d.toJson d := by
    intro d hd
    obtain ⟨e, -, rfl⟩ := List.mem_map.1 hd
    exact RateRecord.reads_ofRate e
  have h : Fields.Given Snapshot.fields [
      ("rates", .array ((ofRegistry r).rates.map RateRecord.toJson)),
      ("currencies", .array (r.currencies.map Currency.toJson))] (ofRegistry r) :=
    Fields.Given.nil Snapshot.mk
      |>.snoc (Json.reads_list fun c _ ↦ c.reads)
      |>.snoc (Json.reads_list hrates)
  exact h.reads (by decide) "Snapshot"

theorem ofText_toText : ofText (ofRegistry r).toText = .ok (ofRegistry r) :=
  Json.decodeText_toPretty (plain_ofRegistry r 124) (reads_ofRegistry r)

theorem exchangeRates_ofRegistry :
    (ofRegistry r).exchangeRates = r.rates.edges.map (·.unsignZeros) := by
  simp only [exchangeRates, ofRegistry, List.map_map]
  exact List.map_congr_left fun e _ ↦ RateRecord.toRate_ofRate e

variable {r}

theorem toRegistry_ofRegistry (h : r.currencies.any (·.isNeutral)) :
    (ofRegistry r).toRegistry = r.unsignZeros := by
  rw [toRegistry, Registry.ofParts, exchangeRates_ofRegistry]
  exact congrArg (Registry.mk · _) (if_pos h)

/-- A registry that knows the neutral unit is restored from the text of its snapshot: with the same
currencies and edges in their order, and with numbers of the same values and places. -/
theorem same_of_ofText_toText (h : r.currencies.any (·.isNeutral)) :
    ∃ s, ofText (ofRegistry r).toText = .ok s ∧ s.toRegistry.Same r := by
  refine ⟨ofRegistry r, ofText_toText r, ?_⟩
  rw [toRegistry_ofRegistry h]
  exact Registry.same_of_unsignZeros_eq r.unsignZeros_unsignZeros

def sampleRegistry : Registry where
  currencies := [.neutral, {
    id := -7, code := .ofText "EUR", title := "\t\"Euro\" \\ €\x01", precision := 2
    rounding := .up, isPublic := true, isDefault := false }]
  rates := ⟨[
    { pair := ⟨.ofText "EUR", .neutral⟩
      rate := (Decimal.ofParts? false 12500 4).getD .zero
      commission := (Decimal.ofParts? true 0 2).getD .zero },
    { pair := ⟨.neutral, .ofText "EUR"⟩
      rate := (Decimal.ofParts? false 800 3).getD .zero }]⟩

theorem same_of_ofText_toText_sampleRegistry :
    sampleRegistry.currencies.any (·.isNeutral) ∧
    ∃ s, ofText (ofRegistry sampleRegistry).toText = .ok s ∧ s.toRegistry.Same sampleRegistry :=
  ⟨by decide, same_of_ofText_toText (by decide)⟩

end Snapshot

end Forex
