import Mathlib.Logic.Function.Basic
import Mathlib.Algebra.Group.Nat.Basic
import Mathlib.Data.Nat.Defs

/-
  StellarInsured.Host — what the contracts of stellar-insured-contracts read from the
  Soroban host besides their own storage, and how one invocation ends.

  A contract function returns (`Ok`, or an `Err` after whatever it wrote before
  returning it), or the host aborts it: a `require_auth` the address did not sign, a
  token transfer that fails, an `unwrap` of nothing, an arithmetic overflow (the
  contracts are built with overflow checks). An aborted invocation leaves storage as
  it was (`Outcome.after`).

  When a contract's entry point returns an `Err` the host discards its writes too.
  `after` keeps them, as the library functions (`VersionManager`, the authorization
  module) do for the contract that called them: the runs built on `after` reach every
  state the host can reach, so an invariant proved over them holds either way.
-/

namespace StellarInsured

instance Except.instDecidableEq {ε α : Type} [DecidableEq ε] [DecidableEq α] :
    DecidableEq (Except ε α)
  | .error a, .error b =>
    if h : a = b then isTrue (h ▸ rfl) else isFalse fun e => h (Except.error.inj e)
  | .ok a, .ok b => if h : a = b then isTrue (h ▸ rfl) else isFalse fun e => h (Except.ok.inj e)
  | .error _, .ok _ => isFalse nofun
  | .ok _, .error _ => isFalse nofun

/-- A Soroban `Address`. -/
structure Address where
  id : Nat
  deriving DecidableEq, Repr

/-- One invocation's view of the host: the ledger clock and the addresses whose
    `require_auth` passes. -/
structure Host where
  timestamp : Nat
  authorizes : Address → Bool

inductive Outcome (ε α σ : Type) where
  /-- The function returned `r`, leaving storage `s`. -/
  | ret (r : Except ε α) (s : σ)
  | abort
  deriving DecidableEq, Repr

namespace Outcome

variable {ε α σ : Type}

/-- The storage the host keeps after an invocation that started from `s`. -/
def after (s : σ) : Outcome ε α σ → σ
  | ret _ s' => s'
  | abort => s

def result : Outcome ε α σ → Option (Except ε α)
  | ret r _ => some r
  | abort => none

/-- The same outcome over a larger storage: `f` puts the part the function wrote back. -/
def mapState {τ : Type} (f : σ → τ) : Outcome ε α σ → Outcome ε α τ
  | ret r s => ret r (f s)
  | abort => abort

@[simp] theorem after_ret (s s' : σ) (r : Except ε α) : (ret r s').after s = s' := rfl

@[simp] theorem after_abort (s : σ) : (abort : Outcome ε α σ).after s = s := rfl

@[simp] theorem result_ret (s : σ) (r : Except ε α) : (ret r s).result = some r := rfl

@[simp] theorem result_abort : (abort : Outcome ε α σ).result = none := rfl

@[simp] theorem mapState_ret {τ : Type} (f : σ → τ) (r : Except ε α) (s : σ) :
    (ret r s).mapState f = ret r (f s) := rfl

@[simp] theorem mapState_abort {τ : Type} (f : σ → τ) :
    (abort : Outcome ε α σ).mapState f = abort := rfl

end Outcome

/-! ## Checks

A contract function's checks run in `Except`: `?` is `bind` and an early return is
`throw`. These rewrite a check that passed into the facts it checked. -/

namespace Except

variable {ε α β : Type}

@[simp] theorem bind_eq_ok {x : Except ε α} {f : α → Except ε β} {b : β} :
    x >>= f = .ok b ↔ ∃ a, x = .ok a ∧ f a = .ok b := by
  cases x <;> simp [bind, Except.bind]

@[simp] theorem throw_eq (e : ε) : (throw e : Except ε α) = .error e := rfl

@[simp] theorem pure_eq (a : α) : (pure a : Except ε α) = .ok a := rfl

@[simp] theorem error_bind (e : ε) (f : α → Except ε β) : (Except.error e >>= f) = .error e := rfl

@[simp] theorem ok_bind (a : α) (f : α → Except ε β) : (Except.ok a >>= f) = f a := rfl

@[simp] theorem ite_error_eq_ok {c : Prop} [Decidable c] {e : ε} {x : Except ε α} {a : α} :
    (if c then .error e else x) = .ok a ↔ ¬c ∧ x = .ok a := by
  split <;> simp_all

@[simp] theorem ite_else_error_eq_ok {c : Prop} [Decidable c] {e : ε} {x : Except ε α} {a : α} :
    (if c then x else .error e) = .ok a ↔ c ∧ x = .ok a := by
  split <;> simp_all

end Except

/-- `Option::ok_or`. -/
def okOr {ε α : Type} : Option α → ε → Except ε α
  | some a, _ => .ok a
  | none, e => .error e

@[simp] theorem okOr_eq_ok {ε α : Type} {o : Option α} {e : ε} {a : α} :
    okOr o e = .ok a ↔ o = some a := by
  cases o <;> simp [okOr]

/-! ## Entry points

An entry point is the caller's `require_auth`, then its checks, each an early `Err`
that writes nothing, then its writes on what the checks read, which trap on overflow.
A property of the storage that every write keeps, the entry point keeps. -/

section EntryPoints

variable {ε α β σ : Type}

/-- An `Ok` whose result and storage were computed without overflow, or the trap. -/
def trapping : Option (α × σ) → Outcome ε α σ
  | some (a, s) => .ret (.ok a) s
  | none => .abort

/-- `caller.require_auth()`: without the caller's signature the invocation aborts. -/
def authorized (host : Host) (caller : Address) (k : Outcome ε α σ) : Outcome ε α σ :=
  if host.authorizes caller then k else .abort

/-- The checks, then the writes on what they read. -/
def checked (s : σ) (checks : Except ε α) (writes : α → Option (β × σ)) : Outcome ε β σ :=
  match checks with
  | .error e => .ret (.error e) s
  | .ok a => trapping (writes a)

variable {γ : Type} (f : σ → γ) {s : σ}

theorem trapping_keeps {x : Option (β × σ)} (h : ∀ b s', x = some (b, s') → f s' = f s) :
    f ((trapping x : Outcome ε β σ).after s) = f s := by
  cases x with
  | none => rfl
  | some p => exact h p.1 p.2 rfl

theorem checked_keeps {checks : Except ε α} {writes : α → Option (β × σ)}
    (h : ∀ a b s', writes a = some (b, s') → f s' = f s) :
    f ((checked s checks writes).after s) = f s := by
  unfold checked
  split
  · rfl
  · exact trapping_keeps f (h _)

@[simp] theorem trapping_eq_ok {x : Option (α × σ)} {a : α} {s' : σ} :
    (trapping x : Outcome ε α σ) = .ret (.ok a) s' ↔ x = some (a, s') := by
  rcases x with _ | ⟨b, t⟩ <;> simp [trapping]

theorem checked_eq_ok {checks : Except ε α} {writes : α → Option (β × σ)} {b : β} {s' : σ} :
    checked s checks writes = .ret (.ok b) s' ↔ ∃ a, checks = .ok a ∧ writes a = some (b, s') := by
  cases checks <;> simp [checked]

/-- Only the checks return an `Err`, and they write nothing. -/
theorem checked_eq_error {checks : Except ε α} {writes : α → Option (β × σ)} {e : ε} {s' : σ}
    (h : checked s checks writes = .ret (.error e) s') : s' = s := by
  cases checks with
  | error => cases h; rfl
  | ok a => cases hw : writes a <;> simp [checked, trapping, hw] at h

@[simp] theorem authorized_eq_ret {host : Host} {caller : Address} {k : Outcome ε α σ}
    {r : Except ε α} {s' : σ} :
    authorized host caller k = .ret r s' ↔ host.authorizes caller ∧ k = .ret r s' := by
  unfold authorized
  split <;> simp [*]

theorem authorized_keeps {host : Host} {caller : Address} {k : Outcome ε β σ}
    (h : f (k.after s) = f s) : f ((authorized host caller k).after s) = f s := by
  unfold authorized
  split
  · exact h
  · rfl

end EntryPoints

/-! ## Machine integers

Values are `Nat` or `Int`; an operation that can overflow returns `none`, the trap. -/

/-- `a + b` on an unsigned `w`-bit integer. -/
def addU (w a b : Nat) : Option Nat := if a + b < 2 ^ w then some (a + b) else none

/-- `a * b` on an unsigned `w`-bit integer. -/
def mulU (w a b : Nat) : Option Nat := if a * b < 2 ^ w then some (a * b) else none

/-- `a - b` on an unsigned integer. -/
def subU (a b : Nat) : Option Nat := if b ≤ a then some (a - b) else none

/-- `i128::MIN`. The powers are taken on `Nat`, where they evaluate. -/
def i128Min : Int := -((2 ^ 127 : Nat) : Int)

/-- `i128::MAX`. -/
def i128Max : Int := ((2 ^ 127 - 1 : Nat) : Int)

/-- `x` fits an `i128`. -/
def fitsI128 (x : Int) : Bool := i128Min ≤ x ∧ x ≤ i128Max

/-- `a + b` on `i128`. -/
def addI128 (a b : Int) : Option Int := if fitsI128 (a + b) then some (a + b) else none

/-- `a - b` on `i128`. -/
def subI128 (a b : Int) : Option Int := if fitsI128 (a - b) then some (a - b) else none

/-- `a.saturating_sub(b)` on `i128`. -/
def saturatingSubI128 (a b : Int) : Int := max i128Min (min i128Max (a - b))

/-- `x as u128` for an `i128`: the same bits. -/
def i128AsU128 (x : Int) : Nat := (x % ((2 ^ 128 : Nat) : Int)).toNat

/-- `x as i128` for a `u128`: the same bits. -/
def u128AsI128 (x : Nat) : Int := if x < 2 ^ 127 then x else x - ((2 ^ 128 : Nat) : Int)

theorem addU_eq_some {w a b c : Nat} : addU w a b = some c ↔ a + b < 2 ^ w ∧ c = a + b := by
  unfold addU
  split
  · exact ⟨fun h => ⟨‹_›, (Option.some.inj h).symm⟩, fun h => h.2 ▸ rfl⟩
  · exact ⟨fun h => Option.noConfusion h, fun h => absurd h.1 ‹_›⟩

theorem addI128_eq_some {a b c : Int} : addI128 a b = some c ↔ fitsI128 (a + b) ∧ c = a + b := by
  unfold addI128
  split
  · exact ⟨fun h => ⟨‹_›, (Option.some.inj h).symm⟩, fun h => h.2 ▸ rfl⟩
  · exact ⟨fun h => Option.noConfusion h, fun h => absurd h.1 ‹_›⟩

end StellarInsured
