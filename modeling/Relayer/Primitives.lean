import Mathlib.Data.List.Sort
import Mathlib.Tactic.Positivity
import Mathlib.Tactic.Linarith

/-! The arithmetic every client of the relayer computes with: ethers `BigNumber` values as
unbounded integers, the 18-decimal fixed point of percentages, the conversion of an amount
between token decimals, and JavaScript objects keyed by chain ID. An object whose keys are
integers enumerates them in ascending order, whatever the order of assignment; `ChainKeyed`
keeps that order as an invariant of its entries. -/
namespace Relayer

/-- `fixedPointAdjustment` (`sdkUtils.fixedPointAdjustment`): `10^18` is 100%. -/
def fixedPointAdjustment : Int := 10 ^ 18

theorem fixedPointAdjustment_pos : (0 : Int) < fixedPointAdjustment := by decide

/-- `BigNumber.div`: ethers divides big integers truncating toward zero. -/
def bnDiv (numerator denominator : Int) : Int := numerator.tdiv denominator

/-- `MAX_UINT_VAL`, the percentage of a chain whose target is zero. -/
def maxUintVal : Int := 2 ^ 256 - 1

/-- Modelled from the spec: `sdkUtils.ConvertDecimals` is not under src/. §4.1: an amount
with `fromDecimals` decimals is multiplied by `10^(to - from)` when `to ≥ from`, and
floor-divided by `10^(from - to)` otherwise. -/
def convertDecimals (fromDecimals toDecimals : Nat) (amount : Int) : Int :=
  if fromDecimals ≤ toDecimals then amount * 10 ^ (toDecimals - fromDecimals)
  else amount / 10 ^ (fromDecimals - toDecimals)

@[simp] theorem convertDecimals_self (decimals : Nat) (amount : Int) :
    convertDecimals decimals decimals amount = amount := by
  simp [convertDecimals]

@[simp] theorem convertDecimals_zero (fromDecimals toDecimals : Nat) :
    convertDecimals fromDecimals toDecimals 0 = 0 := by
  unfold convertDecimals; split <;> simp

theorem convertDecimals_nonneg {amount : Int} (nonneg : 0 ≤ amount) (fromDecimals toDecimals : Nat) :
    0 ≤ convertDecimals fromDecimals toDecimals amount := by
  unfold convertDecimals
  split
  · positivity
  · exact Int.ediv_nonneg nonneg (by positivity)

theorem convertDecimals_mono {low high : Int} (le : low ≤ high) (fromDecimals toDecimals : Nat) :
    convertDecimals fromDecimals toDecimals low ≤ convertDecimals fromDecimals toDecimals high := by
  unfold convertDecimals
  split
  · exact mul_le_mul_of_nonneg_right le (by positivity)
  · exact Int.ediv_le_ediv (by positivity) le

/-- Re-denominating a token, `k` more decimals and every raw amount times `10^k`, converts to
the same amount: the conversion is a function of the value, not of its representation. -/
theorem convertDecimals_rescale (decimals k toDecimals : Nat) (amount : Int) :
    convertDecimals (decimals + k) toDecimals (amount * 10 ^ k) =
      convertDecimals decimals toDecimals amount := by
  unfold convertDecimals
  by_cases up : decimals + k ≤ toDecimals
  · have exponent : k + (toDecimals - (decimals + k)) = toDecimals - decimals := by omega
    rw [if_pos up, if_pos (by omega), mul_assoc, ← pow_add, exponent]
  · rw [if_neg up]
    by_cases partly : decimals ≤ toDecimals
    · have split : (10 : Int) ^ k = 10 ^ (decimals + k - toDecimals) * 10 ^ (toDecimals - decimals) := by
        rw [← pow_add]; congr 1; omega
      rw [if_pos partly, split, ← mul_assoc, mul_comm amount, mul_assoc,
        Int.mul_ediv_cancel_left _ (by positivity)]
    · have split : (10 : Int) ^ (decimals + k - toDecimals) = 10 ^ k * 10 ^ (decimals - toDecimals) := by
        rw [← pow_add]; congr 1; omega
      rw [if_neg partly, split, mul_comm amount, Int.mul_ediv_mul_of_pos _ _ (by positivity)]

/-! ## Truncating division -/

theorem bnDiv_of_nonneg {numerator denominator : Int} (nonneg : 0 ≤ numerator)
    (positive : 0 ≤ denominator) : bnDiv numerator denominator = numerator / denominator :=
  Int.tdiv_eq_ediv nonneg positive

theorem bnDiv_nonpos {numerator denominator : Int} (nonpos : numerator ≤ 0) (positive : 0 ≤ denominator) :
    bnDiv numerator denominator ≤ 0 := by
  have flipped : bnDiv numerator denominator = -bnDiv (-numerator) denominator := by
    simp [bnDiv, Int.neg_tdiv]
  rw [flipped, bnDiv_of_nonneg (by omega) positive]
  have := Int.ediv_nonneg (show 0 ≤ -numerator by omega) positive
  omega

/-- A truncated quotient stays below any bound the exact quotient stays below, whatever the
sign of the numerator. -/
theorem bnDiv_le_of_le_mul {numerator denominator bound : Int} (positive : 0 < denominator)
    (nonneg : 0 ≤ bound) (le : numerator ≤ bound * denominator) :
    bnDiv numerator denominator ≤ bound := by
  rcases le_or_lt 0 numerator with sign | sign
  · rw [bnDiv_of_nonneg sign positive.le]
    exact Int.ediv_le_of_le_mul positive le
  · exact (bnDiv_nonpos sign.le positive.le).trans nonneg

theorem bnDiv_mono {low high : Int} (le : low ≤ high) (nonneg : 0 ≤ low) {denominator : Int}
    (positive : 0 < denominator) : bnDiv low denominator ≤ bnDiv high denominator := by
  rw [bnDiv_of_nonneg nonneg positive.le, bnDiv_of_nonneg (nonneg.trans le) positive.le]
  exact Int.ediv_le_ediv positive le

theorem bnDiv_of_neg {numerator denominator : Int} (negative : numerator < 0) (positive : 0 ≤ denominator) :
    bnDiv numerator denominator = -((-numerator) / denominator) := by
  have flipped : bnDiv numerator denominator = -bnDiv (-numerator) denominator := by
    simp [bnDiv, Int.neg_tdiv]
  rw [flipped, bnDiv_of_nonneg (by omega) positive]

/-- Truncation toward zero is monotone in the numerator over a positive denominator, negative
numerators included. -/
theorem bnDiv_mono_left {low high denominator : Int} (le : low ≤ high) (positive : 0 < denominator) :
    bnDiv low denominator ≤ bnDiv high denominator := by
  rcases le_or_lt 0 low with lowSign | lowSign
  · exact bnDiv_mono le lowSign positive
  rcases le_or_lt 0 high with highSign | highSign
  · rw [bnDiv_of_nonneg highSign positive.le]
    exact (bnDiv_nonpos lowSign.le positive.le).trans (Int.ediv_nonneg highSign positive.le)
  · rw [bnDiv_of_neg lowSign positive.le, bnDiv_of_neg highSign positive.le]
    exact neg_le_neg (Int.ediv_le_ediv positive (by omega))

/-- A truncated quotient is within one of the exact quotient, on either side. -/
theorem bnDiv_bounds {denominator : Int} (positive : 0 < denominator) (numerator : Int) :
    (bnDiv numerator denominator - 1) * denominator < numerator ∧
      numerator < (bnDiv numerator denominator + 1) * denominator := by
  rcases le_or_lt 0 numerator with sign | sign
  · rw [bnDiv_of_nonneg sign positive.le]
    have low := Int.ediv_mul_le numerator positive.ne'
    have high := Int.lt_ediv_add_one_mul_self numerator positive
    constructor <;> linarith
  · rw [bnDiv_of_neg sign positive.le]
    have low := Int.ediv_mul_le (-numerator) positive.ne'
    have high := Int.lt_ediv_add_one_mul_self (-numerator) positive
    constructor <;> linarith

/-- Over a positive divisor the truncated quotient is negative exactly when the numerator is at
most minus the divisor. -/
theorem bnDiv_nonneg_iff {numerator denominator : Int} (positive : 0 < denominator) :
    0 ≤ bnDiv numerator denominator ↔ -denominator < numerator := by
  constructor
  · intro nonneg
    have low := (bnDiv_bounds positive numerator).1
    have product := mul_nonneg nonneg positive.le
    linarith
  · intro above
    rcases le_or_lt 0 numerator with sign | sign
    · rw [bnDiv_of_nonneg sign positive.le]
      exact Int.ediv_nonneg sign positive.le
    · rw [bnDiv_of_neg sign positive.le, Int.ediv_eq_zero_of_lt (by omega) (by omega), neg_zero]

theorem bnDiv_le_of_lt_mul {numerator denominator bound : Int} (positive : 0 < denominator)
    (nonneg : 0 ≤ bound) (lt : numerator < (bound + 1) * denominator) : bnDiv numerator denominator ≤ bound := by
  rcases le_or_lt 0 numerator with sign | sign
  · rw [bnDiv_of_nonneg sign positive.le]
    exact Int.lt_add_one_iff.mp (Int.ediv_lt_of_lt_mul positive lt)
  · exact (bnDiv_nonpos sign.le positive.le).trans nonneg

/-- A computation that may throw and returned: its first step returned too. -/
theorem bind_ok_inv {ε α β : Type} {x : Except ε α} {f : α → Except ε β} {result : β}
    (bound : (x >>= f) = .ok result) : ∃ a, x = .ok a ∧ f a = .ok result := by
  cases x with
  | error _ => cases bound
  | ok a => exact ⟨a, rfl, bound⟩

theorem toOption_eq_some {ε α : Type} {result : Except ε α} {value : α} :
    result.toOption = some value ↔ result = .ok value := by
  cases result <;> simp [Except.toOption]

theorem mapM_eq_ok_map {ε α β : Type} {f : α → Except ε β} (g : α → β) :
    ∀ {xs : List α}, (∀ x ∈ xs, f x = .ok (g x)) → xs.mapM f = .ok (xs.map g)
  | [], _ => rfl
  | x :: rest, each => by
    rw [List.mapM_cons, each x (List.mem_cons_self _ _),
      mapM_eq_ok_map g fun y held => each y (List.mem_cons_of_mem _ held)]
    rfl

/-! ## Objects keyed by chain ID -/

/-- A JavaScript object whose keys are chain IDs. Integer keys enumerate in ascending order,
so the entries are kept sorted, each key once; assigning to a key replaces its value. -/
structure ChainKeyed (α : Type) where
  entries : List (Nat × α)
  ascending : entries.Pairwise (fun a b => a.1 < b.1)

namespace ChainKeyed

variable {α β : Type}

/-- `object[key] = value` on sorted entries. -/
def insertEntry (key : Nat) (value : α) : List (Nat × α) → List (Nat × α)
  | [] => [(key, value)]
  | (k, v) :: rest =>
    if key < k then (key, value) :: (k, v) :: rest
    else if key = k then (key, value) :: rest
    else (k, v) :: insertEntry key value rest

theorem mem_insertEntry {key : Nat} {value : α} {entry : Nat × α} :
    ∀ {entries : List (Nat × α)}, entry ∈ insertEntry key value entries →
      entry = (key, value) ∨ entry ∈ entries
  | [] => by simp [insertEntry]
  | (k, v) :: rest => by
    unfold insertEntry
    split
    · simp
    · split
      · simp only [List.mem_cons]; tauto
      · simp only [List.mem_cons]
        intro held
        rcases held with same | held
        · exact .inr (.inl same)
        · rcases mem_insertEntry held with same | held
          · exact .inl same
          · exact .inr (.inr held)

theorem insertEntry_ascending {key : Nat} {value : α} :
    ∀ {entries : List (Nat × α)}, entries.Pairwise (fun a b => a.1 < b.1) →
      (insertEntry key value entries).Pairwise (fun a b => a.1 < b.1)
  | [], _ => by simp [insertEntry]
  | (k, v) :: rest, sorted => by
    obtain ⟨above, restSorted⟩ := List.pairwise_cons.mp sorted
    unfold insertEntry
    split
    · exact .cons (fun e held => by
        rcases List.mem_cons.mp held with rfl | held
        · assumption
        · exact lt_trans ‹_› (above e held)) sorted
    · split
      · subst key
        exact .cons above restSorted
      · refine .cons (fun e held => ?_) (insertEntry_ascending restSorted)
        rcases mem_insertEntry held with rfl | held
        · dsimp only; omega
        · exact above e held

/-- The object with no keys. -/
def empty : ChainKeyed α := ⟨[], .nil⟩

/-- `object[key] = value`. -/
def set (object : ChainKeyed α) (key : Nat) (value : α) : ChainKeyed α :=
  ⟨insertEntry key value object.entries, insertEntry_ascending object.ascending⟩

/-- `Object.fromEntries`. -/
def ofEntries (entries : List (Nat × α)) : ChainKeyed α :=
  entries.foldl (fun object entry => object.set entry.1 entry.2) empty

/-- `object[key]`, undefined when the key is absent. -/
def get? (object : ChainKeyed α) (key : Nat) : Option α :=
  (object.entries.find? (fun entry => entry.1 = key)).map Prod.snd

/-- `Object.keys`, as chain IDs. -/
def keys (object : ChainKeyed α) : List Nat := object.entries.map Prod.fst

/-- `Object.values`. -/
def values (object : ChainKeyed α) : List α := object.entries.map Prod.snd

/-- `Object.fromEntries(Object.entries(object).map(...))` with the keys kept. -/
def mapValues (f : Nat → α → β) (object : ChainKeyed α) : ChainKeyed β :=
  ⟨object.entries.map (fun entry => (entry.1, f entry.1 entry.2)),
    List.pairwise_map.mpr (object.ascending.imp id)⟩

theorem keys_nodup (object : ChainKeyed α) : object.keys.Nodup :=
  List.pairwise_map.mpr (object.ascending.imp ne_of_lt)

@[simp] theorem keys_mapValues (f : Nat → α → β) (object : ChainKeyed α) :
    (object.mapValues f).keys = object.keys := by
  simp [mapValues, keys, Function.comp_def]

theorem keys_set_subset {object : ChainKeyed α} {key k : Nat} {value : α}
    (held : k ∈ (object.set key value).keys) : k = key ∨ k ∈ object.keys := by
  obtain ⟨entry, entryHeld, rfl⟩ := List.mem_map.mp held
  rcases mem_insertEntry entryHeld with rfl | entryHeld
  · exact .inl rfl
  · exact .inr (List.mem_map_of_mem _ entryHeld)

/-- Every key of `Object.fromEntries` was a key of one of its entries. -/
theorem keys_ofEntries_subset {k : Nat} :
    ∀ (entries : List (Nat × α)) {object : ChainKeyed α},
      k ∈ (entries.foldl (fun object entry => object.set entry.1 entry.2) object).keys →
        k ∈ object.keys ∨ k ∈ entries.map Prod.fst
  | [], _, held => .inl held
  | entry :: rest, object, held => by
    rcases keys_ofEntries_subset rest held with held | held
    · rcases keys_set_subset held with rfl | held
      · exact .inr (by simp)
      · exact .inl held
    · exact .inr (List.mem_cons_of_mem _ held)

/-- Every entry of `Object.fromEntries` is one of the entries it was given. -/
theorem mem_ofEntries {entry : Nat × α} :
    ∀ (entries : List (Nat × α)) {object : ChainKeyed α},
      entry ∈ (entries.foldl (fun object entry => object.set entry.1 entry.2) object).entries →
        entry ∈ object.entries ∨ entry ∈ entries
  | [], _, held => .inl held
  | first :: rest, object, held => by
    rcases mem_ofEntries rest held with held | held
    · rcases mem_insertEntry held with rfl | held
      · exact .inr (List.mem_cons_self _ _)
      · exact .inl held
    · exact .inr (List.mem_cons_of_mem _ held)

theorem mem_keys_ofEntries {k : Nat} {entries : List (Nat × α)}
    (held : k ∈ (ofEntries entries).keys) : k ∈ entries.map Prod.fst := by
  rcases keys_ofEntries_subset entries held with held | held
  · simp [empty, keys] at held
  · exact held

theorem insertEntry_perm {key : Nat} (value : α) :
    ∀ {entries : List (Nat × α)}, key ∉ entries.map Prod.fst →
      (insertEntry key value entries).Perm ((key, value) :: entries)
  | [], _ => by simp [insertEntry]
  | (k, v) :: rest, fresh => by
    simp only [List.map_cons, List.mem_cons, not_or] at fresh
    unfold insertEntry
    rw [if_neg fresh.1]
    split
    · exact .refl _
    · exact ((insertEntry_perm value fresh.2).cons _).trans (.swap _ _ _)

/-- With distinct keys, `Object.fromEntries` holds exactly its entries. -/
theorem ofEntries_perm {entries : List (Nat × α)} (distinct : (entries.map Prod.fst).Nodup) :
    (ofEntries entries).entries.Perm entries := by
  suffices general : ∀ (object : ChainKeyed α) (rest : List (Nat × α)),
      (rest.map Prod.fst).Nodup → (∀ k ∈ rest.map Prod.fst, k ∉ object.keys) →
        (rest.foldl (fun object entry => object.set entry.1 entry.2) object).entries.Perm
          (object.entries ++ rest) by
    simpa [empty] using general empty entries distinct (by simp [empty, keys])
  intro object rest
  induction rest generalizing object with
  | nil => simp
  | cons entry rest ih =>
    intro distinctRest fresh
    simp only [List.map_cons, List.nodup_cons, List.mem_cons, forall_eq_or_imp] at distinctRest fresh
    have inserted := insertEntry_perm entry.2 fresh.1
    refine (ih (object.set entry.1 entry.2) distinctRest.2 fun k held stale => ?_).trans ?_
    · rcases keys_set_subset stale with rfl | stale
      · exact distinctRest.1 held
      · exact fresh.2 k held stale
    · exact (inserted.append_right rest).trans List.perm_middle.symm

theorem get?_of_mem {object : ChainKeyed α} {key : Nat} {value : α}
    (held : (key, value) ∈ object.entries) : object.get? key = some value := by
  obtain ⟨front, back, split⟩ := List.append_of_mem held
  have sorted := object.ascending
  rw [split] at sorted
  have before : ∀ entry ∈ front, entry.1 < key := fun entry inFront =>
    (List.pairwise_append.mp sorted).2.2 entry inFront _ (List.mem_cons_self _ _)
  unfold get?
  rw [split, List.find?_append,
    List.find?_eq_none.mpr fun entry inFront => by simpa using (before entry inFront).ne]
  simp

theorem get?_isSome_iff {object : ChainKeyed α} {key : Nat} :
    (object.get? key).isSome ↔ key ∈ object.keys := by
  simp [get?, keys, List.find?_isSome]

end ChainKeyed

end Relayer
