import SqlForge.Proofs.Fragment.Part
import SqlForge.Proofs.Schema.Layout

/-!
The keys of a new table where one dialect writes them: behind the definitions of the columns every
foreign key, and then a primary key. Of several primary keys that are declared it is the first.
-/

namespace SqlForge.Schema

/-- Whether the change makes the table or declares something in it. -/
def Change.isDeclaration : Change → Bool
  | .create | .index .. | .namedIndex .. | .foreign .. | .column .. | .string .. | .increments ..
  | .bigIncrements .. | .unsignedInteger .. | .unsignedBigInteger .. | .timestamps | .softDeletes _
  | .engine _ | .charset _ | .collation _ | .temporary _ => true
  | .drop | .dropIfExists | .rename _ | .dropColumns _ | .renameColumn .. | .dropPrimary
  | .dropIndex .. | .dropForeign _ | .renameIndex .. => false

/-- The keys and indexes that a change declares apart from columns, by the names that `named` gives. -/
def Change.indexes (named : String → List String → String) : Change → List (IndexKind × Index)
  | .index kind columns => [(kind, { name := named kind.suffix columns, columns })]
  | .namedIndex name columns algorithm => [(.plain, { name, columns, algorithm })]
  | _ => []

def asCommand (declared : IndexKind × Index) : Command :=
  .index declared.1 declared.2

/-- The columns of each primary key. -/
def primaryKeys (declared : List (IndexKind × Index)) : List (List String) :=
  (declared.filter (·.1 = .primary)).map (·.2.columns)

theorem Change.commands_of_isDeclaration {named : String → List String → String} {c : Change}
    (h : c.isDeclaration) (hcreate : c ≠ .create)
    : c.commands named = (c.indexes named).map asCommand := by
  cases c with
  | create => exact absurd rfl hcreate
  | index | namedIndex | foreign | column | string | increments | bigIncrements | unsignedInteger
  | unsignedBigInteger | timestamps | softDeletes | engine | charset | collation | temporary => rfl
  | drop | dropIfExists | rename | dropColumns | renameColumn | dropPrimary | dropIndex
  | dropForeign | renameIndex => cases h

theorem flatMap_commands_eq {named : String → List String → String} {changes : List Change}
    (h : ∀ c ∈ changes, c.isDeclaration) (hcreate : .create ∉ changes)
    : changes.flatMap (·.commands named) = (changes.flatMap (·.indexes named)).map asCommand := by
  rw [List.map_flatMap]
  apply List.flatMap_congr
  intro c hc
  apply Change.commands_of_isDeclaration (h c hc)
  rintro rfl
  exact hcreate hc

theorem filterMap_primaryColumns?_map (declared : List (IndexKind × Index))
    : (declared.map asCommand).filterMap Command.primaryColumns? = primaryKeys declared := by
  unfold primaryKeys
  induction declared with
  | nil => rfl
  | cons first rest ih =>
    obtain ⟨kind, i⟩ := first
    rw [List.map_cons]
    cases kind with
    | primary =>
      have hfirst : (asCommand (.primary, i)).primaryColumns? = some i.columns := rfl
      rw [List.filterMap_cons_some hfirst, ih]
      rfl
    | unique | plain | spatial =>
      rw [List.filterMap_cons_none rfl, ih]
      rfl

namespace Blueprint

variable (g : Grammar) (b : Blueprint)

/-! ### What stands between the parentheses of a new table -/

def foreignItem (key : ForeignKey) : String :=
  "foreign key(" ++ nameList g key.columns ++ ")" ++ reference g key

def primaryItem (columns : List String) : String :=
  "primary key (" ++ nameList g columns ++ ")"

/-- The columns, the foreign keys and the primary key, in this order. -/
def items (primary : Option (List String)) : List String :=
  b.definitions g ++ b.foreignKeys.map (foreignItem g) ++ (primary.map (primaryItem g)).toList

/-- The keys and indexes over single columns, by column. -/
def indexesOfColumns : List (IndexKind × Index) :=
  b.columns.flatMap fun c => c.indexes.map fun asked => (asked.1, b.columnIndex c asked)

/-- The statements of the indexes that are no primary keys. -/
def separateTexts (declared : List (IndexKind × Index)) : List String :=
  (declared.filter (·.1 ≠ .primary)).map fun (kind, i) => b.indexText g kind i

variable {g b}

theorem columnIndexes_eq : b.columnIndexes = b.indexesOfColumns.map asCommand := by
  unfold columnIndexes indexesOfColumns
  rw [List.map_flatMap]
  apply List.flatMap_congr
  intro c _
  rw [List.map_map]
  rfl

theorem intercalate_append {separator : String} {first : List String} (hne : first ≠ [])
    (rest : List String)
    : separator.intercalate (first ++ rest) =
      separator.intercalate first ++ String.join (rest.map (separator ++ ·)) := by
  obtain ⟨part, parts, rfl⟩ := List.exists_cons_of_ne_nil hne
  rw [List.cons_append, Sql.intercalate_cons, Sql.intercalate_cons, List.map_append,
    String.join_append, String.append_assoc]

theorem inlineForeign_eq (key : ForeignKey) : inlineForeign g key = ", " ++ foreignItem g key := by
  unfold inlineForeign foreignItem
  simp only [← String.append_assoc]
  rfl

theorem inlinePrimary_eq (columns : List String)
    : inlinePrimary g columns = ", " ++ primaryItem g columns := by
  unfold inlinePrimary primaryItem
  simp only [← String.append_assoc]
  rfl

/-- What is written into the statement for a new table are items like its columns. -/
theorem creation_eq (hdialect : g.dialect = .sqlite) (hcolumns : b.columns ≠ [])
    : b.creation g = b.createText g (", ".intercalate (b.items g b.primaryColumns?)) := by
  have hdefinitions : b.definitions g ≠ [] := by simpa [definitions] using hcolumns
  have hforeign : b.foreignKeys.map (inlineForeign g) =
      (b.foreignKeys.map (foreignItem g)).map (", " ++ ·) := by
    rw [List.map_map]
    exact List.map_congr_left fun key _ => inlineForeign_eq key
  have hprimary : (b.primaryColumns?.map (inlinePrimary g)).getD "" =
      String.join ((b.primaryColumns?.map (primaryItem g)).toList.map (", " ++ ·)) := by
    cases b.primaryColumns? with
    | none => simp
    | some columns => simp [inlinePrimary_eq]
  unfold creation items
  rw [hdialect, List.append_assoc, intercalate_append hdefinitions, List.map_append,
    String.join_append, hforeign, hprimary, ← String.append_assoc]
  rfl

/-! ### What is written apart -/

theorem flatMap_impliedTexts (hinline : b.writesKeysInline g) (declared : List (IndexKind × Index))
    : (declared.map asCommand).flatMap (b.impliedTexts g) = b.separateTexts g declared := by
  unfold separateTexts
  induction declared with
  | nil => rfl
  | cons first rest ih =>
    obtain ⟨kind, i⟩ := first
    rw [List.map_cons, List.flatMap_cons, ih, asCommand, impliedTexts, hinline]
    cases kind with
    | primary | unique | plain | spatial => simp

theorem Writes.eq_separateTexts {declared : List (IndexKind × Index)} {texts : List String}
    (hinline : b.writesKeysInline g) (h : b.Writes g (declared.map asCommand) texts)
    : texts = b.separateTexts g declared := by
  rw [← flatMap_impliedTexts hinline]
  apply h.eq_flatMap
  intro c hc parts hparts
  obtain ⟨⟨kind, i⟩, -, rfl⟩ := List.mem_map.mp hc
  exact writes_index hparts

/-! ### All statements -/

/-- All keys and indexes that are declared: those of the changes, then those of the columns. -/
def declaredIndexes (b : Blueprint) (changes : List Change) : List (IndexKind × Index) :=
  changes.flatMap (·.indexes b.indexName) ++ b.indexesOfColumns

/-- The columns of each primary key that is declared. -/
def declaredKeys (b : Blueprint) (changes : List Change) : List (List String) :=
  primaryKeys (b.declaredIndexes changes)

section

variable {g' : Grammar} {stringLength : Nat} {table : String} {before after : List Change}
  (hb : b = (ofGrammar g' stringLength table).changeAll (before ++ .create :: after))

include hb

theorem columns_of_create
    : b.columns = (before ++ after).flatMap (·.columns stringLength) ∧
      b.foreignKeys = (before ++ after).flatMap (·.foreignKeys b.indexName) := by
  obtain ⟨hindexName, -, hcolumns, -, hforeignKeys⟩ :=
    extends_changeAll (ofGrammar g' stringLength table) (before ++ .create :: after)
  rw [← hb] at hindexName hcolumns hforeignKeys
  rw [hcolumns, hforeignKeys, hindexName]
  simp only [List.flatMap_append, List.flatMap_cons]
  exact ⟨rfl, rfl⟩

variable (hbefore : .create ∉ before) (hafter : .create ∉ after)
  (hdeclared : ∀ c ∈ before ++ after, c.isDeclaration)

include hbefore hafter hdeclared

theorem commands_of_create
    : b.commands = (before.flatMap (·.indexes b.indexName)).map asCommand ++
        .create :: (after.flatMap (·.indexes b.indexName)).map asCommand := by
  obtain ⟨hindexName, -, -, hcommands, -⟩ :=
    extends_changeAll (ofGrammar g' stringLength table) (before ++ .create :: after)
  rw [← hb] at hindexName hcommands
  have hdeclared := List.forall_mem_append.mp hdeclared
  rw [hcommands, ← hindexName, List.flatMap_append, List.flatMap_cons,
    flatMap_commands_eq hdeclared.1 hbefore, flatMap_commands_eq hdeclared.2 hafter]
  rfl

theorem isCreating_of_create : b.isCreating := by
  rw [isCreating, commands_of_create hb hbefore hafter hdeclared, List.contains_iff_mem]
  exact List.mem_append_right _ List.mem_cons_self

theorem foreign_notMem_of_create (key : ForeignKey) : .foreign key ∉ b.commands := by
  rw [commands_of_create hb hbefore hafter hdeclared]
  simp [asCommand]

theorem primaryColumns?_of_create
    : b.primaryColumns? = (b.declaredKeys (before ++ after)).head? := by
  rw [primaryColumns?, ← List.head?_filterMap, commands_of_create hb hbefore hafter hdeclared,
    columnIndexes_eq, declaredKeys, declaredIndexes, List.flatMap_append]
  simp only [← filterMap_primaryColumns?_map, List.map_append, List.filterMap_append]
  rfl

/-- The indexes declared before the table is made, the table, and all further indexes. -/
theorem statements_of_create (hdialect : g.dialect = .sqlite) {texts : List String}
    (h : b.statements g = .ok texts)
    : texts = b.separateTexts g (before.flatMap (·.indexes b.indexName)) ++
        b.creation g ::
          b.separateTexts g (after.flatMap (·.indexes b.indexName) ++ b.indexesOfColumns) := by
  have hcreating := isCreating_of_create hb hbefore hafter hdeclared
  have hcommands := commands_of_create hb hbefore hafter hdeclared
  have hforeign := foreign_notMem_of_create hb hbefore hafter hdeclared
  have hinline : b.writesKeysInline g := by
    rw [writesKeysInline, hdialect, hcreating]
    rfl
  have hadded : b.addedColumns = [] := by
    rw [addedColumns, hcreating, Bool.or_true, if_pos rfl]
  have hall : b.allCommands g.dialect =
      (before.flatMap (·.indexes b.indexName)).map asCommand ++ [.create] ++
        (after.flatMap (·.indexes b.indexName) ++ b.indexesOfColumns).map asCommand ++
          b.foreignKeys.map .foreign := by
    rw [allCommands, hadded, hcommands, columnIndexes_eq, hdialect]
    simp [columnComments]
  rw [statements_eq_ok_iff, hall] at h
  simp only [writes_append_iff] at h
  obtain ⟨_, _, ⟨_, _, ⟨_, _, hfirst, hcreate, rfl⟩, hrest, rfl⟩, hkeys, rfl⟩ := h
  have hnokeys : b.keyTexts g = [] := by rw [keyTexts, if_pos hinline]
  rw [hfirst.eq_separateTexts hinline, hrest.eq_separateTexts hinline, hkeys.eq_keyTexts, hnokeys,
    hcreate.of_commandStatements (writes_create hforeign)]
  simp

end

/--
The statements of a table that is created where its keys are written into the statement that creates
it. Between the parentheses stand the columns, each foreign key, and the first of the primary keys,
in this order; nothing else is written of keys. The other indexes have a statement each. So the
columns of a later primary key are keys only if the first has them too.
-/
theorem keys_folded {g' : Grammar} {stringLength : Nat} {table : String}
    {before after : List Change} {texts : List String} (hdialect : g.dialect = .sqlite)
    (hb : b = (ofGrammar g' stringLength table).changeAll (before ++ .create :: after))
    (hbefore : .create ∉ before) (hafter : .create ∉ after)
    (hdeclared : ∀ c ∈ before ++ after, c.isDeclaration) (hcolumns : b.columns ≠ [])
    (h : b.statements g = .ok texts)
    : b.columns = (before ++ after).flatMap (·.columns stringLength) ∧
      b.foreignKeys = (before ++ after).flatMap (·.foreignKeys b.indexName) ∧
      texts = b.separateTexts g (before.flatMap (·.indexes b.indexName)) ++
        b.createText g (", ".intercalate (b.items g (b.declaredKeys (before ++ after)).head?)) ::
          b.separateTexts g (after.flatMap (·.indexes b.indexName) ++ b.indexesOfColumns) ∧
      ((∀ key ∈ b.declaredKeys (before ++ after),
          ∃ written ∈ (b.declaredKeys (before ++ after)).head?, key ⊆ written) ↔
        ∀ key ∈ (b.declaredKeys (before ++ after)).tail,
          key ⊆ (b.declaredKeys (before ++ after)).headD []) := by
  obtain ⟨hdefinitions, hforeignKeys⟩ := columns_of_create hb
  refine ⟨hdefinitions, hforeignKeys, ?_, ?_⟩
  . rw [← primaryColumns?_of_create hb hbefore hafter hdeclared, ← creation_eq hdialect hcolumns]
    exact statements_of_create hb hbefore hafter hdeclared hdialect h
  . cases b.declaredKeys (before ++ after) with
    | nil => simp
    | cons first later => simp

/-- A key is declared by its column and once more, and an index before the table is made. -/
def ordersBefore : List Change := [
  .column "id" .bigInteger [.index .primary none],
  .index .unique ["code"]]

def ordersAfter : List Change := [
  .string "code" [.index .plain (some "by_code")],
  .foreign ["id"] [.references ["id"], .on "users"],
  .index .primary ["id", "code"]]

def orders : Blueprint :=
  (ofGrammar ⟨.sqlite, ""⟩ 80 "orders").changeAll (ordersBefore ++ .create :: ordersAfter)

def orderTexts : List String := [
  "create unique index \"orders_code_unique\" on \"orders\" (\"code\")",
  "create table \"orders\" (\"id\" integer not null, \"code\" varchar not null, " ++
    "foreign key(\"id\") references \"users\" (\"id\"), primary key (\"id\", \"code\"))",
  "create index \"by_code\" on \"orders\" (\"code\")"]

theorem orders_keys_folded
    : orders.statements ⟨.sqlite, ""⟩ = .ok orderTexts ∧
      .create ∉ ordersBefore ∧ .create ∉ ordersAfter ∧
      (∀ c ∈ ordersBefore ++ ordersAfter, c.isDeclaration) ∧ orders.columns ≠ [] ∧
      orders.declaredKeys (ordersBefore ++ ordersAfter) = [["id", "code"], ["id"]] ∧
      ∀ key ∈ orders.declaredKeys (ordersBefore ++ ordersAfter),
        ∃ written ∈ (orders.declaredKeys (ordersBefore ++ ordersAfter)).head?, key ⊆ written := by
  have hbefore : .create ∉ ordersBefore := by simp [ordersBefore]
  have hafter : .create ∉ ordersAfter := by simp [ordersAfter]
  have hdeclared : ∀ c ∈ ordersBefore ++ ordersAfter, c.isDeclaration := by
    simp [ordersBefore, ordersAfter, Change.isDeclaration]
  have hcolumns : orders.columns ≠ [] := List.cons_ne_nil _ _
  have hwritten : orders.statements ⟨.sqlite, ""⟩ = .ok _ := rfl
  have hstatements : orders.statements ⟨.sqlite, ""⟩ = .ok orderTexts := by
    refine hwritten.trans (congrArg Except.ok ?_)
    decide +kernel
  have hkeys : orders.declaredKeys (ordersBefore ++ ordersAfter) = [["id", "code"], ["id"]] := rfl
  obtain ⟨-, -, -, hcovered⟩ :=
    keys_folded (b := orders) rfl rfl hbefore hafter hdeclared hcolumns hstatements
  refine ⟨hstatements, hbefore, hafter, hdeclared, hcolumns, hkeys, hcovered.mpr ?_⟩
  rw [hkeys]
  simp

/-- Two columns are declared a key each. -/
def pairs : Blueprint :=
  (ofGrammar ⟨.sqlite, ""⟩ 80 "pairs").changeAll [.create,
    .column "a" .integer [.index .primary none], .column "b" .integer [.index .primary none]]

def pairsText : String :=
  "create table \"pairs\" (\"a\" integer not null, \"b\" integer not null, primary key (\"a\"))"

/-- A statement for a new table tells which names stand in its primary key. -/
theorem nameList_of_createText_eq (hcolumns : b.columns ≠ []) {columns others : List String}
    (h : b.createText g (", ".intercalate (b.items g (some columns))) =
      b.createText g (", ".intercalate (b.items g (some others))))
    : nameList g columns = nameList g others := by
  have hdefinitions : b.definitions g ++ b.foreignKeys.map (foreignItem g) ≠ [] := by
    simpa [definitions] using fun hnil => absurd hnil hcolumns
  unfold createText items primaryItem at h
  rw [intercalate_append hdefinitions, intercalate_append hdefinitions] at h
  simpa [String.append_left_inj, String.append_right_inj] using h

/-- The key of the second column is not written, neither in the statement nor after it. -/
theorem pairs_key_dropped
    : pairs.statements ⟨.sqlite, ""⟩ = .ok [pairsText] ∧
      primaryKeys pairs.indexesOfColumns = [["a"], ["b"]] ∧
      ¬∃ columns, "b" ∈ columns ∧
        pairsText = pairs.createText ⟨.sqlite, ""⟩
          (", ".intercalate (pairs.items ⟨.sqlite, ""⟩ (some columns))) := by
  have hwritten : pairs.statements ⟨.sqlite, ""⟩ = .ok _ := rfl
  refine ⟨hwritten.trans (congrArg Except.ok ?_), rfl, ?_⟩
  . decide
  . rintro ⟨columns, hmem, htext⟩
    have hfirst : pairsText = pairs.createText ⟨.sqlite, ""⟩
        (", ".intercalate (pairs.items ⟨.sqlite, ""⟩ (some ["a"]))) := by decide
    have hnames := nameList_of_createText_eq (List.cons_ne_nil _ _) (hfirst.symm.trans htext)
    have hoccurs : Occurs "\"b\"" (nameList ⟨.sqlite, ""⟩ columns) :=
      occurs_intercalate separates_comma (List.mem_map_of_mem hmem)
    rw [← hnames] at hoccurs
    have hinfix : ¬"\"b\"".toList <:+: (nameList ⟨.sqlite, ""⟩ ["a"]).toList := by decide
    exact hinfix hoccurs.isInfix

end Blueprint

end SqlForge.Schema
