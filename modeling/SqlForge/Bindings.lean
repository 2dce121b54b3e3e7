import SqlForge.Value

/-!
The values of a statement, kept apart by the clause they belong to. Whatever order they are recorded
in, they are handed out in the order in which the clauses are written.
-/

namespace SqlForge

/-- The clauses that take values. -/
inductive Bucket where
  | select
  | source
  | join
  | filter
  | having
  | order
  | union
  deriving DecidableEq, Repr

/-- The buckets in the order in which their clauses are written. -/
def Bucket.all : List Bucket :=
  [.select, .source, .join, .filter, .having, .order, .union]

/-- The word that the clause goes by. -/
def Bucket.name : Bucket → String
  | .select => "select"
  | .source => "from"
  | .join => "join"
  | .filter => "where"
  | .having => "having"
  | .order => "order"
  | .union => "union"

structure Bindings where
  select : List Value := []
  source : List Value := []
  join : List Value := []
  filter : List Value := []
  having : List Value := []
  order : List Value := []
  union : List Value := []
  deriving Inhabited

namespace Bindings

def get (b : Bindings) : Bucket → List Value
  | .select => b.select
  | .source => b.source
  | .join => b.join
  | .filter => b.filter
  | .having => b.having
  | .order => b.order
  | .union => b.union

def set (b : Bindings) (bucket : Bucket) (values : List Value) : Bindings :=
  match bucket with
  | .select => { b with select := values }
  | .source => { b with source := values }
  | .join => { b with join := values }
  | .filter => { b with filter := values }
  | .having => { b with having := values }
  | .order => { b with order := values }
  | .union => { b with union := values }

@[simp] theorem get_set_self (b : Bindings) (k : Bucket) (vs : List Value) :
    (b.set k vs).get k = vs := by
  cases k <;> rfl

theorem get_set_of_ne (b : Bindings) {k l : Bucket} (vs : List Value) (h : k ≠ l) :
    (b.set k vs).get l = b.get l := by
  cases k <;> cases l <;> first | rfl | contradiction

def extend (b : Bindings) (bucket : Bucket) (values : List Value) : Bindings :=
  b.set bucket (b.get bucket ++ values)

def push (b : Bindings) (bucket : Bucket) (v : Value) : Bindings :=
  b.extend bucket [v]

def clear (b : Bindings) (bucket : Bucket) : Bindings :=
  b.set bucket []

/-- The values of the buckets that `keep` holds of. -/
def flattenWhere (b : Bindings) (keep : Bucket → Bool) : List Value :=
  (Bucket.all.filter keep).flatMap b.get

def flatten (b : Bindings) : List Value :=
  b.flattenWhere fun _ => true

def flattenExcept (b : Bindings) (skip : List Bucket) : List Value :=
  b.flattenWhere fun k => !skip.contains k

def flattenOnly (b : Bindings) (keep : List Bucket) : List Value :=
  b.flattenWhere keep.contains

def size (b : Bindings) : Nat :=
  Bucket.all.foldl (fun n k => n + (b.get k).length) 0

def isEmpty (b : Bindings) : Bool :=
  Bucket.all.all fun k => (b.get k).isEmpty

/-- Appends every bucket of `other` to the same bucket of `b`. -/
def merge (b other : Bindings) : Bindings :=
  Bucket.all.foldl (fun acc k => acc.extend k (other.get k)) b

end Bindings

end SqlForge
