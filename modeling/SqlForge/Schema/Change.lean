import SqlForge.Schema.Blueprint

/-!
What can be asked of a change to a table, as data: columns with their attributes, indexes, foreign
keys, and what is done to the table and to what is there.
-/

namespace SqlForge.Schema

/-- What is said of a column behind its type. -/
inductive Attribute where
  | nullable
  | fallback (value : Operand)
  | unsigned
  | autoIncrement
  | comment (text : String)
  | after (column : String)
  | first
  | charset (name : String)
  | collation (name : String)
  | useCurrent
  | virtualAs (expression : String)
  | storedAs (expression : String)
  /-- An index over the column alone. -/
  | index (kind : IndexKind) (name : Option String)

def Column.set (c : Column) : Attribute → Column
  | .nullable => { c with nullable := true }
  | .fallback value => { c with fallback := some value }
  | .unsigned => { c with unsigned := true }
  | .autoIncrement => { c with autoIncrement := true }
  | .comment text => { c with comment := some text }
  | .after column => { c with after := some column }
  | .first => { c with first := true }
  | .charset name => { c with charset := some name }
  | .collation name => { c with collation := some name }
  | .useCurrent => { c with useCurrent := true }
  | .virtualAs expression => { c with virtualAs := some expression }
  | .storedAs expression => { c with storedAs := some expression }
  | .index kind name => c.addIndex kind name

def Column.setAll (attributes : List Attribute) (c : Column) : Column :=
  attributes.foldl Column.set c

/-- The column that comes of a name, a type and attributes. -/
def Column.declared (name : String) (type : ColumnType) (attributes : List Attribute) : Column :=
  .setAll attributes { name, type }

/-- What is said of a foreign key. -/
inductive Term where
  | references (columns : List String)
  | on (table : String)
  | onDelete (action : String)
  | onUpdate (action : String)
  | cascadeOnDelete

def ForeignKey.set (k : ForeignKey) : Term → ForeignKey
  | .references columns => { k with references := columns }
  | .on table => { k with on := table }
  | .onDelete action => { k with onDelete := some action }
  | .onUpdate action => { k with onUpdate := some action }
  | .cascadeOnDelete => { k with onDelete := some "cascade" }

def ForeignKey.setAll (terms : List Term) (k : ForeignKey) : ForeignKey :=
  terms.foldl ForeignKey.set k

inductive Change where
  | create
  | drop
  | dropIfExists
  | rename (target : String)
  | dropColumns (columns : List String)
  | renameColumn (source target : String)
  | index (kind : IndexKind) (columns : List String)
  | namedIndex (name : String) (columns : List String) (algorithm : Option String)
  | foreign (columns : List String) (terms : List Term)
  | dropPrimary
  | dropIndex (kind : IndexKind) (name : String)
  | dropForeign (name : String)
  | renameIndex (source target : String)
  | column (name : String) (type : ColumnType) (attributes : List Attribute)
  /-- A text of the length of those for which none is given. -/
  | string (name : String) (attributes : List Attribute)
  | increments (name : String) (attributes : List Attribute)
  | bigIncrements (name : String) (attributes : List Attribute)
  | unsignedInteger (name : String) (attributes : List Attribute)
  | unsignedBigInteger (name : String) (attributes : List Attribute)
  | timestamps
  | softDeletes (attributes : List Attribute)
  | engine (name : Option String)
  | charset (name : Option String)
  | collation (name : Option String)
  | temporary (isTemporary : Bool)

namespace Blueprint

def change (b : Blueprint) : Change → Blueprint
  | .create => b.record .create
  | .drop => b.record .drop
  | .dropIfExists => b.record .dropIfExists
  | .rename target => b.record (.rename target)
  | .dropColumns columns => b.record (.dropColumns columns)
  | .renameColumn source target => b.record (.renameColumn source target)
  | .index kind columns => b.addIndex kind columns
  | .namedIndex name columns algorithm => b.record (.index .plain ⟨name, columns, algorithm⟩)
  | .foreign columns terms => b.addForeign columns (.setAll terms)
  | .dropPrimary => b.record .dropPrimary
  | .dropIndex kind name => b.record (.dropIndex kind name)
  | .dropForeign name => b.record (.dropForeign name)
  | .renameIndex source target => b.record (.renameIndex source target)
  | .column name type attributes => b.addColumn (.declared name type attributes)
  | .string name attributes => b.addColumn (.declared name (.string b.stringLength) attributes)
  | .increments name attributes => b.addCounter name .increments (.setAll attributes)
  | .bigIncrements name attributes => b.addCounter name .bigIncrements (.setAll attributes)
  | .unsignedInteger name attributes => b.addUnsigned name .integer (.setAll attributes)
  | .unsignedBigInteger name attributes => b.addUnsigned name .bigInteger (.setAll attributes)
  | .timestamps => b.addTimestamps
  | .softDeletes attributes => b.addSoftDeletes (.setAll attributes)
  | .engine name => { b with engine := name }
  | .charset name => { b with charset := name }
  | .collation name => { b with collation := name }
  | .temporary isTemporary => { b with temporary := isTemporary }

def changeAll (b : Blueprint) (changes : List Change) : Blueprint :=
  changes.foldl change b

end Blueprint

end SqlForge.Schema
