import SqlForge.Proofs.Select.Arrow

/-!
The raw SQL that the clauses of a statement hold, in the order in which it is written.
-/

namespace SqlForge

/-- Raw SQL, and whether it stands where one dialect asks a document what it contains. -/
inductive Fragment where
  | plain (sql : String)
  | contained (sql : String)
  deriving DecidableEq, Repr

namespace Fragment

/-- The text as it was given. -/
def given : Fragment → String
  | .plain sql | .contained sql => sql

/-- The text as it is written in a dialect. -/
def written (d : Dialect) : Fragment → String
  | .plain sql => sql
  | .contained sql =>
    match d with
    | .postgres => String.ofList (documentArrows sql.toList)
    | .mysql | .sqlite => sql

/-- Raw SQL is written as it was given, but for the arrows in the documents of one dialect. -/
theorem written_eq_given_iff {f : Fragment} {d : Dialect}
    : f.written d = f.given ↔
      ¬(d = .postgres ∧ ∃ sql, f = .contained sql ∧ "->>".toList <:+: sql.toList) := by
  cases f with
  | plain sql => simp [written, given]
  | contained sql =>
    cases d with
    | mysql | sqlite => simp [written, given]
    | postgres =>
      have hsame : String.ofList (documentArrows sql.toList) = sql ↔
          documentArrows sql.toList = sql.toList := by
        rw [← String.toList_inj, String.toList_ofList]
      simpa [written, given, hsame] using documentArrows_eq_self_iff

end Fragment

/-! ### Clauses without conditions -/

def Column.fragments : Column → List Fragment
  | .name _ => []
  | .raw sql => [.plain sql]

def Column.containedFragments : Column → List Fragment
  | .name _ => []
  | .raw sql => [.contained sql]

def Table.fragments : Table → List Fragment
  | .name _ => []
  | .raw sql => [.plain sql]

def Operand.fragments : Operand → List Fragment
  | .value _ => []
  | .raw sql => [.plain sql]

def Selection.fragments : Selection → List Fragment
  | .column c => c.fragments
  | .fragment sql => [.plain sql.text]

def Source.fragments : Source → List Fragment
  | .table t => t.fragments
  | .fragment sql => [.plain sql.text]

def Ordering.fragments : Ordering → List Fragment
  | .column c _ => c.fragments
  | .raw sql _ => [.plain sql.text]

/-! ### Conditions and statements -/

/-- The fragments of the clauses that hold other clauses. -/
structure Held where
  joins : List Fragment
  wheres : List Fragment
  havings : List Fragment
  members : List Fragment

namespace Select

/-- An aggregate stands in place of the column list. -/
def headFragments (q : Select) : Option Aggregate → List Fragment
  | some a => a.columns.flatMap Column.fragments
  | none => q.selections.flatMap Selection.fragments

def singleFragments (q : Select) (a : Option Aggregate) (h : Held) : List Fragment :=
  q.headFragments a ++ q.source.toList.flatMap Source.fragments ++ h.joins ++ h.wheres ++
    q.groups.flatMap Column.fragments ++ h.havings ++ q.orders.flatMap Ordering.fragments

def wholeFragments (q : Select) (a : Option Aggregate) (h : Held) : List Fragment :=
  if q.unions.isEmpty then q.singleFragments a h
  else q.singleFragments a h ++ h.members ++ q.unionOrders.flatMap Ordering.fragments

/-- The fragments that a statement is written with. -/
def arrange (q : Select) (h : Held) : List Fragment :=
  match q.aggregate with
  | some a =>
    if q.unions.isEmpty then q.wholeFragments (some a) h
    else a.columns.flatMap Column.fragments ++ q.wholeFragments none h
  | none => q.wholeFragments none h

end Select

mutual
/-- A test for one of no values at all is written without its column. -/
def Condition.fragments : Condition → List Fragment
  | .compare column _ operand => column.fragments ++ operand.fragments
  | .raw sql => [.plain sql.text]
  | .among _ [] _ => []
  | .among column operands _ => column.fragments ++ operands.flatMap Operand.fragments
  | .amongRows column query _ => column.fragments ++ query.fragments
  | .isNull column _ => column.fragments
  | .between column low high _ => column.fragments ++ low.fragments ++ high.fragments
  | .group clauses => clauseFragments clauses
  | .exists query _ => query.fragments
  | .compareColumns first _ second => first.fragments ++ second.fragments
  | .compareQuery column _ query => column.fragments ++ query.fragments
  | .compareDate _ column _ operand => column.fragments ++ operand.fragments
  | .compareRow columns _ operands =>
    columns.flatMap Column.fragments ++ operands.flatMap Operand.fragments
  | .jsonContains column operand _ => column.containedFragments ++ operand.fragments

def clauseFragments : List Clause → List Fragment
  | [] => []
  | { condition, .. } :: clauses => condition.fragments ++ clauseFragments clauses

def Join.fragments : Join → List Fragment
  | { source, inner, conditions, .. } =>
    source.fragments ++ joinFragments inner ++ clauseFragments conditions

def joinFragments : List Join → List Fragment
  | [] => []
  | join :: joins => join.fragments ++ joinFragments joins

def memberFragments : List UnionMember → List Fragment
  | [] => []
  | { query, .. } :: members => query.fragments ++ memberFragments members

def Select.fragments : Select → List Fragment
  | q@{ joins, wheres, havings, unions, .. } =>
    q.arrange {
      joins := joinFragments joins
      wheres := clauseFragments wheres
      havings := clauseFragments havings
      members := memberFragments unions }
end

/-- The fragments of the clauses that hold other clauses, by name. -/
def Select.held (q : Select) : Held where
  joins := joinFragments q.joins
  wheres := clauseFragments q.wheres
  havings := clauseFragments q.havings
  members := memberFragments q.unions

theorem Select.fragments_eq (q : Select) : q.fragments = q.arrange q.held := by
  cases q
  rw [Select.fragments]
  rfl

end SqlForge
