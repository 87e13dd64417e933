import SchemaPlan.Column.Basic

namespace SchemaPlan

/-- One refinement of a column. The actions of a reference count only once it is there, and naming
another reference forgets them. -/
inductive Modifier where
  | nullable
  | default (value : DefaultValue)
  | defaultExpr (sql : String)
  | useCurrent
  | unique
  | index
  | primary
  | autoIncrement
  | unsigned
  | comment (text : String)
  | references (table column : String)
  | onDelete (action : ReferentialAction)
  | onUpdate (action : ReferentialAction)
deriving DecidableEq

namespace Modifier

def apply (c : Column) : Modifier → Column
  | .nullable => { c with nullable := true }
  | .default value => { c with default := some value }
  | .defaultExpr sql => { c with default := some (.expression sql) }
  | .useCurrent => { c with default := some .currentTimestamp }
  | .unique => { c with unique := true }
  | .index => { c with index := true }
  | .primary => { c with primary := true }
  | .autoIncrement => { c with autoIncrement := true }
  | .unsigned => { c with unsigned := true }
  | .comment text => { c with comment := some text }
  | .references table column => { c with references := some ⟨table, column, none, none⟩ }
  | .onDelete action =>
    { c with references := c.references.map ({ · with onDelete := some action }) }
  | .onUpdate action =>
    { c with references := c.references.map ({ · with onUpdate := some action }) }

end Modifier

namespace Column

def modify (c : Column) (mods : List Modifier) : Column :=
  mods.foldl Modifier.apply c

@[simp] theorem modify_nil (c : Column) : c.modify [] = c := rfl

@[simp] theorem modify_cons (c : Column) (m : Modifier) (mods : List Modifier) :
    c.modify (m :: mods) = (m.apply c).modify mods := rfl

theorem modify_append (c : Column) (xs ys : List Modifier) :
    c.modify (xs ++ ys) = (c.modify xs).modify ys := by
  simp [modify, List.foldl_append]

end Column

end SchemaPlan
