import Forex.Proofs.Rate.Inverse
import Forex.Proofs.Rate.Resolution
import Forex.Proofs.Store.Refresh

namespace Forex

namespace RateTable

variable {t : RateTable} {base : Code} {p : Pair}

def usableEdge? (t : RateTable) (p : Pair) : Option ExchangeRate :=
  (t.get? p).filter (!·.rate.isZero)

theorem pair_of_usableEdge? {e : ExchangeRate} (h : t.usableEdge? p = some e) : e.pair = p := by
  obtain ⟨hget, -⟩ := Option.filter_eq_some_iff.1 h
  simpa using List.find?_some hget

theorem rate_of_usableEdge? {e : ExchangeRate} (h : t.usableEdge? p = some e) :
    e.rate.isZero = false := by
  obtain ⟨-, hrate⟩ := Option.filter_eq_some_iff.1 h
  simpa using hrate

theorem resolveEdge_of_ne (t : RateTable) (hsource : base ≠ p.source) (htarget : base ≠ p.target) :
    t.resolveEdge base p = t.get? p := by
  have hpair : (fun e : ExchangeRate ↦ e.pair.source.standsFor base p.source &&
      e.pair.target.standsFor base p.target) = fun e ↦ e.pair == p := by
    funext e
    rw [Code.standsFor_of_ne hsource.symm, Code.standsFor_of_ne htarget.symm, Pair.beq_eq]
  rw [resolveEdge, hpair, ← get?]
  cases t.get? p <;> rfl

theorem usableRate?_of_ne (t : RateTable) (hsource : base ≠ p.source) (htarget : base ≠ p.target)
    (hne : p.source ≠ p.target) : t.usableRate? base p = (t.usableEdge? p).map (·.rate) := by
  rw [usableRate?, resolve, if_neg hne, resolveEdge_of_ne t hsource htarget, usableEdge?]
  cases t.get? p with
  | none => rfl
  | some e =>
    simp only [Option.map_some, Option.filter_some]
    split <;> rfl

theorem resolveOrInverse_of_ne (t : RateTable) (hsource : base ≠ p.source)
    (htarget : base ≠ p.target) :
    t.resolveOrInverse base p = .ok (
      if p.source = p.target then some ⟨.one, .identity⟩
      else
        match t.usableEdge? p with
        | some e => some ⟨e.rate, .direct⟩
        | none => (t.usableEdge? p.swap).map fun e ↦ ⟨e.rate.reciprocal, .inverse⟩) := by
  by_cases hne : p.source = p.target
  · rw [if_pos hne, resolveOrInverse_self t base hne]
  · rw [if_neg hne, resolveOrInverse_eq t base hne, usableRate?_of_ne t hsource htarget hne,
      usableRate?_of_ne t (p := p.swap) htarget hsource (Ne.symm hne)]
    cases t.usableEdge? p with
    | some e => rfl
    | none => cases t.usableEdge? p.swap <;> rfl

end RateTable

namespace Store

variable {f : SnapshotFile} {w : World} {snapshot : Snapshot} {base : Code} {p : Pair}

theorem usable?_answer (snapshot : Snapshot) (p : Pair) :
    usable? (SnapshotFile.answer snapshot (.rate p)) =
      RateTable.usableEdge? ⟨snapshot.exchangeRates⟩ p := by
  simp only [SnapshotFile.answer, RateTable.usableEdge?]
  cases RateTable.get? ⟨snapshot.exchangeRates⟩ p <;> rfl

theorem resume_direct (s : Store) (now : Timestamp) (snapshot : Snapshot) (p : Pair) :
    s.resume now (.direct p) (SnapshotFile.answer snapshot (.rate p)) =
      match RateTable.usableEdge? ⟨snapshot.exchangeRates⟩ p with
      | some e => s.finishPairRate p (.ok e)
      | none => (s, .waiting (.reverse p)) := by
  rw [← usable?_answer]
  rfl

theorem resume_reverse (s : Store) (now : Timestamp) (snapshot : Snapshot) (p : Pair) :
    s.resume now (.reverse p) (SnapshotFile.answer snapshot (.rate p.swap)) =
      match RateTable.usableEdge? ⟨snapshot.exchangeRates⟩ p.swap with
      | some e => s.finishPairRate p (.ok e)
      | none => s.finishPairRate p (.error (.rateUnavailable p)) := by
  rw [← usable?_answer]
  rfl

theorem finishPairRate_direct (s : Store) {e : ExchangeRate} (he : e.pair = p) :
    (s.finishPairRate p (.ok e)).2 = .found (.ok ⟨e.rate, .direct⟩) := by
  simp [finishPairRate, Resource.endSelect, he]

theorem finishPairRate_reverse (s : Store) {e : ExchangeRate} (hne : p.source ≠ p.target)
    (he : e.pair = p.swap) (hrate : e.rate.isZero = false) :
    (s.finishPairRate p (.ok e)).2 = .found (.ok ⟨e.rate.reciprocal, .inverse⟩) := by
  have hsource : e.pair.source ≠ p.source := by
    rw [he]
    exact hne.symm
  simp only [finishPairRate, Resource.endSelect, if_neg hsource,
    Decimal.one_div_eq_reciprocal hrate]
  rfl

theorem run_pairRate_of_found {s s' : Store} {result : Except (Abort RatesError) RateLookup}
    {provider : Provider (StateM World)} {clock : StateM World Timestamp}
    (h : (settle provider clock 2 (s.startPairRate p)).run w = ((s', .found result), w)) :
    (s.pairRate provider clock p).run w = ((s', result.map some), w) := by
  rw [pairRate, StateT.run_bind, h]
  rfl

theorem run_settle_direct (h : f.Holds w snapshot) (n : Nat) (s : Store) (p : Pair) :
    (settle (f.provider World.host) World.host.clock (n + 1) (s, .waiting (.direct p))).run w =
      (settle (f.provider World.host) World.host.clock n
        (match RateTable.usableEdge? ⟨snapshot.exchangeRates⟩ p with
          | some e => s.finishPairRate p (.ok e)
          | none => (s, .waiting (.reverse p)))).run w := by
  rw [run_settle h, ← resume_direct s w.now snapshot p]
  rfl

theorem run_settle_reverse (h : f.Holds w snapshot) (n : Nat) (s : Store) (p : Pair) :
    (settle (f.provider World.host) World.host.clock (n + 1) (s, .waiting (.reverse p))).run w =
      (settle (f.provider World.host) World.host.clock n
        (match RateTable.usableEdge? ⟨snapshot.exchangeRates⟩ p.swap with
          | some e => s.finishPairRate p (.ok e)
          | none => s.finishPairRate p (.error (.rateUnavailable p)))).run w := by
  rw [run_settle h, ← resume_reverse s w.now snapshot p]
  rfl

theorem run_settle_found (provider : Provider (StateM World)) (clock : StateM World Timestamp)
    (n : Nat) {state : Store × Progress} {result : Except (Abort RatesError) RateLookup}
    (h : state.2 = .found result) :
    (settle provider clock n state).run w = ((state.1, .found result), w) := by
  obtain ⟨s, progress⟩ := state
  obtain rfl : progress = .found result := h
  cases n <;> rfl

theorem exists_pairRate (h : f.Holds w snapshot) (s : Store) (p : Pair) :
    ∃ s', (s.pairRate (f.provider World.host) World.host.clock p).run w = ((s',
      if p.source = p.target then .ok (some ⟨.one, .identity⟩)
      else
        match RateTable.usableEdge? ⟨snapshot.exchangeRates⟩ p with
        | some e => .ok (some ⟨e.rate, .direct⟩)
        | none =>
          match RateTable.usableEdge? ⟨snapshot.exchangeRates⟩ p.swap with
          | some e => .ok (some ⟨e.rate.reciprocal, .inverse⟩)
          | none => .error (.refused (.rateUnavailable p))), w) := by
  by_cases hne : p.source = p.target
  · have hstart : s.startPairRate p = (s, .found (.ok ⟨.one, .identity⟩)) := if_pos hne
    have hrun := run_settle_found (w := w) (f.provider World.host) World.host.clock 2
      (congrArg Prod.snd hstart)
    rw [if_pos hne]
    exact ⟨_, run_pairRate_of_found hrun⟩
  · have hstart : s.startPairRate p =
        ({ s with pair := s.pair.startSelect }, .waiting (.direct p)) := if_neg hne
    -- What the store holds does not matter from here on.
    generalize ({ s with pair := s.pair.startSelect } : Store) = s₁ at hstart
    have hrun := run_settle_direct h 1 s₁ p
    rw [← hstart] at hrun
    rw [if_neg hne]
    cases hdirect : RateTable.usableEdge? ⟨snapshot.exchangeRates⟩ p with
    | some e =>
      rw [hdirect] at hrun
      have hfound := s₁.finishPairRate_direct (RateTable.pair_of_usableEdge? hdirect)
      exact ⟨_, run_pairRate_of_found (hrun.trans (run_settle_found _ _ 1 hfound))⟩
    | none =>
      rw [hdirect] at hrun
      have hrun := hrun.trans (run_settle_reverse h 0 s₁ p)
      cases hback : RateTable.usableEdge? ⟨snapshot.exchangeRates⟩ p.swap with
      | some e =>
        rw [hback] at hrun
        have hfound := s₁.finishPairRate_reverse hne (RateTable.pair_of_usableEdge? hback)
          (RateTable.rate_of_usableEdge? hback)
        exact ⟨_, run_pairRate_of_found (hrun.trans (run_settle_found _ _ 0 hfound))⟩
      | none =>
        rw [hback] at hrun
        exact ⟨_, run_pairRate_of_found (hrun.trans (run_settle_found _ _ 0 rfl))⟩

/-- A pair lookup on a snapshot file comes to its end; it finds a rate and a method exactly if the
table in the file resolves the pair to them, and it reports that there is no rate exactly if the
table resolves it to none. -/
theorem pairRate_iff_resolveOrInverse (h : f.Holds w snapshot) (hsource : base ≠ p.source)
    (htarget : base ≠ p.target) (s : Store) :
    ∃ s' result,
      (s.pairRate (f.provider World.host) World.host.clock p).run w = ((s', result), w) ∧
      ((∃ lookup, result = .ok (some lookup)) ∨
        result = .error (.refused (.rateUnavailable p))) ∧
      (∀ lookup, result = .ok (some lookup) ↔
        RateTable.resolveOrInverse ⟨snapshot.exchangeRates⟩ base p = .ok (some lookup)) ∧
      (result = .error (.refused (.rateUnavailable p)) ↔
        RateTable.resolveOrInverse ⟨snapshot.exchangeRates⟩ base p = .ok none) := by
  obtain ⟨s', hrun⟩ := exists_pairRate h s p
  refine ⟨s', _, hrun, ?_⟩
  rw [RateTable.resolveOrInverse_of_ne _ hsource htarget]
  split
  case isTrue => simp
  case isFalse =>
    cases RateTable.usableEdge? ⟨snapshot.exchangeRates⟩ p with
    | some e => simp
    | none =>
      cases RateTable.usableEdge? ⟨snapshot.exchangeRates⟩ p.swap with
      | some e => simp
      | none => simp

def zeroPriced : Registry where
  currencies := [.neutral]
  rates := ⟨[
    { pair := ⟨.ofText "USD", .ofText "EUR"⟩, rate := .zero },
    { pair := ⟨.ofText "USD", .ofText "EUR"⟩, rate := .one },
    { pair := ⟨.ofText "EUR", .ofText "USD"⟩, rate := .hundred }]⟩

def zeroPricedWorld : World where
  files := .directory [("rates.json", .file (Snapshot.ofRegistry zeroPriced).toText.toUTF8)]
  service := { host := "", port := 0 }
  now := ⟨0⟩

theorem holds_zeroPricedWorld :
    SnapshotFile.Holds ⟨"rates.json"⟩ zeroPricedWorld (.ofRegistry zeroPriced) :=
  SnapshotFile.holds_of_read (FileTree.read_eq_ok_iff.2
    ⟨["rates.json"], by decide +kernel, by decide +kernel, rfl⟩)

theorem pairRate_iff_resolveOrInverse_zeroPriced :
    SnapshotFile.Holds ⟨"rates.json"⟩ zeroPricedWorld (.ofRegistry zeroPriced) ∧
    Code.neutral ≠ .ofText "USD" ∧ Code.neutral ≠ .ofText "EUR" ∧
    ∃ s', (pairRate {} (SnapshotFile.provider World.host ⟨"rates.json"⟩) World.host.clock
        ⟨.ofText "USD", .ofText "EUR"⟩).run zeroPricedWorld =
      ((s', .ok (some ⟨Decimal.reciprocal .hundred, .inverse⟩)), zeroPricedWorld) := by
  have hsource : Code.neutral ≠ .ofText "USD" := by decide +kernel
  have htarget : Code.neutral ≠ .ofText "EUR" := by decide +kernel
  refine ⟨holds_zeroPricedWorld, hsource, htarget, ?_⟩
  obtain ⟨s', result, hrun, -, hfound, -⟩ := pairRate_iff_resolveOrInverse
    (p := ⟨.ofText "USD", .ofText "EUR"⟩) holds_zeroPricedWorld hsource htarget {}
  have hresult := (hfound ⟨Decimal.reciprocal .hundred, .inverse⟩).2 (by decide +kernel)
  rw [hresult] at hrun
  exact ⟨s', hrun⟩

end Store

end Forex
