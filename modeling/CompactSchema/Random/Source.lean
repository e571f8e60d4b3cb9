import CompactSchema.Binary64.Basic
import CompactSchema.Calendar.Instant
import CompactSchema.Format
import CompactSchema.Uuid

/-
Sources of random decisions.

A generator takes every decision from a source, through nine requests.  A source is
given by how it answers them from its state, so it can be random, seeded or scripted.
What a source promises and what its callers owe it are stated apart, as
`RandomSource.Contract` and `Request.Permitted`.
-/

namespace CompactSchema

structure RandomSource (σ : Type) where
  intInRange (lo hi : Int64) : StateM σ Int64
  floatInRange (lo hi : Binary64) : StateM σ Binary64
  boolean : StateM σ Bool
  index (count : Nat) : StateM σ Nat
  alpha (length : Nat) : StateM σ String
  email : StateM σ String
  phoneNumber : StateM σ String
  dateTime : StateM σ Instant
  uuid : StateM σ Uuid

inductive Request where
  | intInRange (lo hi : Int64)
  | floatInRange (lo hi : Binary64)
  | boolean
  | index (count : Nat)
  | alpha (length : Nat)
  | email
  | phoneNumber
  | dateTime
  | uuid
  deriving DecidableEq

/-- What callers owe a source: ranges that hold a value, and finite bounds. -/
def Request.Permitted : Request → Prop
  | .intInRange lo hi => lo ≤ hi
  | .floatInRange lo hi => lo.isFinite ∧ hi.isFinite ∧ lo.le hi
  | .index count => 0 < count
  | _ => True

instance : DecidablePred Request.Permitted := fun request => by
  cases request <;> unfold Request.Permitted <;> infer_instance

def IsLetter (c : Char) : Prop := 'a' ≤ c ∧ c ≤ 'z' ∨ 'A' ≤ c ∧ c ≤ 'Z'

def IsAlpha (length : Nat) (text : String) : Prop :=
  text.toList.length = length ∧ ∀ c ∈ text.toList, IsLetter c

def Instant.HasPlainYear (instant : Instant) : Prop :=
  0 ≤ instant.date.year ∧ instant.date.year ≤ 9999

/-- What a source promises in every state, for permitted requests. -/
structure RandomSource.Contract {σ : Type} (source : RandomSource σ) : Prop where
  intInRange (lo hi : Int64) (state : σ) (ordered : lo ≤ hi) :
    lo ≤ ((source.intInRange lo hi).run state).1 ∧ ((source.intInRange lo hi).run state).1 ≤ hi
  floatInRange (lo hi : Binary64) (state : σ)
    (finiteLo : lo.isFinite) (finiteHi : hi.isFinite) (ordered : lo.le hi) :
    ((source.floatInRange lo hi).run state).1.isFinite ∧
      lo.le ((source.floatInRange lo hi).run state).1 ∧
      ((source.floatInRange lo hi).run state).1.le hi
  index (count : Nat) (state : σ) (positive : 0 < count) :
    ((source.index count).run state).1 < count
  alpha (length : Nat) (state : σ) : IsAlpha length ((source.alpha length).run state).1
  email (state : σ) : Format.isEmail (source.email.run state).1
  phoneNumber (state : σ) : Format.isPhoneNumber (source.phoneNumber.run state).1
  dateTime (state : σ) : (source.dateTime.run state).1.HasPlainYear
  uuid (state : σ) : Format.isUuid (source.uuid.run state).1.text

namespace RandomSource

variable {σ α : Type}

def recorded (request : Request) (answer : StateM σ α) : StateM (σ × List Request) α :=
  fun (state, record) =>
    let (value, state) := answer.run state
    (value, state, request :: record)

/-- The source with a record of all requests made to it, latest first. -/
def recording (source : RandomSource σ) : RandomSource (σ × List Request) where
  intInRange lo hi := recorded (.intInRange lo hi) (source.intInRange lo hi)
  floatInRange lo hi := recorded (.floatInRange lo hi) (source.floatInRange lo hi)
  boolean := recorded .boolean source.boolean
  index count := recorded (.index count) (source.index count)
  alpha length := recorded (.alpha length) (source.alpha length)
  email := recorded .email source.email
  phoneNumber := recorded .phoneNumber source.phoneNumber
  dateTime := recorded .dateTime source.dateTime
  uuid := recorded .uuid source.uuid

end RandomSource
end CompactSchema
