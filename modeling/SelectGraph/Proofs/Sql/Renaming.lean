import SelectGraph.Proofs.Sql.Alike
import SelectGraph.Proofs.Sql.Laws
import SelectGraph.Proofs.Tree.Renaming

/-!
# Expressions under other keys

Two expressions that differ in the keys of JSON objects only are written with the same pieces up to
these keys, and their values correspond up to the keys as well.  Each construct of the query language
keeps both, and the keys come in the order in which the parts are written.
-/

namespace SelectGraph.Sql

open List

/-! ## Texts -/

/-- Pieces that are equal except for pairs of keys, which are written as texts. -/
inductive Rewritten : List (String × String) → List Piece → List Piece → Prop
  | nil : Rewritten [] [] []
  | same (piece : Piece) {keys : List (String × String)} {pieces others : List Piece}
      (rest : Rewritten keys pieces others) : Rewritten keys (piece :: pieces) (piece :: others)
  | key (pair : String × String) {keys : List (String × String)} {pieces others : List Piece}
      (rest : Rewritten keys pieces others) :
      Rewritten (pair :: keys) (.text pair.1 :: pieces) (.text pair.2 :: others)

namespace Rewritten

variable {keys moreKeys : List (String × String)} {pieces others more otherMore : List Piece}

theorem refl (pieces : List Piece) : Rewritten [] pieces pieces := by
  induction pieces with
  | nil => exact .nil
  | cons piece pieces ih => exact .same _ ih

theorem append (first : Rewritten keys pieces others) (second : Rewritten moreKeys more otherMore) :
    Rewritten (keys ++ moreKeys) (pieces ++ more) (others ++ otherMore) := by
  induction first with
  | nil => exact second
  | same piece _ ih => exact .same _ ih
  | key pair _ ih => exact .key _ ih

theorem followed (first : Rewritten keys pieces others) (after : List Piece) :
    Rewritten keys (pieces ++ after) (others ++ after) := by
  simpa using first.append (refl after)

/-- Pieces between equal ones. -/
theorem between (before after : List Piece) (middle : Rewritten keys pieces others) :
    Rewritten keys (before ++ pieces ++ after) (before ++ others ++ after) :=
  ((refl before).append middle).followed after

/-- Keys are no arguments. -/
theorem arguments_eq (rewritten : Rewritten keys pieces others) :
    arguments others = arguments pieces := by
  induction rewritten with
  | nil => rfl
  | same piece _ ih =>
    simp only [arguments] at ih ⊢
    simp only [filterMap_cons, ih]
  | key _ _ ih => exact ih

end Rewritten

/-- Columns under equal names that are rewritten one by one. -/
inductive ColumnsRewritten : List (String × String) → List (Expr × Option String) →
    List (Expr × Option String) → Prop
  | nil : ColumnsRewritten [] [] []
  | cons {keys moreKeys : List (String × String)} {value other : Expr}
      {cols otherCols : List (Expr × Option String)} {alias? : Option String}
      (first : Rewritten keys value.pieces other.pieces)
      (rest : ColumnsRewritten moreKeys cols otherCols) :
      ColumnsRewritten (keys ++ moreKeys) ((value, alias?) :: cols) ((other, alias?) :: otherCols)

namespace ColumnsRewritten

variable {keys : List (String × String)} {cols otherCols : Columns}

theorem refl (cols : Columns) : ColumnsRewritten [] cols cols := by
  induction cols with
  | nil => exact .nil
  | cons col cols ih => exact .cons (.refl _) ih

theorem followed (rewritten : ColumnsRewritten keys cols otherCols) (after : Columns) :
    ColumnsRewritten keys (cols ++ after) (otherCols ++ after) := by
  induction rewritten with
  | nil => exact refl _
  | cons first _ ih => exact .cons first ih

theorem pieces (rewritten : ColumnsRewritten keys cols otherCols) :
    Rewritten keys (separated ", " (columnPieces cols)) (separated ", " (columnPieces otherCols)) := by
  induction rewritten with
  | nil => exact .nil
  | cons first rest ih =>
    rw [columnPieces_eq, columnPieces_eq] at ih ⊢
    cases rest with
    | nil => simpa [separated] using first.followed _
    | cons _ _ => exact (first.followed _).append (.same _ ih)

end ColumnsRewritten

/-! ## Values -/

/-- Pairs of places in every store, in which two expressions are compared. -/
abbrev Facing := (store : Store) → Place store → Place store → Prop

/-- Expressions that are written up to pairs of keys, and whose values correspond in facing places. -/
structure ExprRenamed (facing : Facing) (change : Change) (value other : Expr) : Prop where
  pieces : Rewritten change.keys value.pieces other.pieces
  values : ∀ {store : Store} {place otherPlace : Place store}, facing store place otherPlace →
    Parallel (fun cell otherCell => change.values cell.toJson otherCell.toJson)
      (value.eval store place) (other.eval store otherPlace)

/-- An expression that has one value in facing places. -/
theorem ExprRenamed.same {facing : Facing} {value : Expr}
    (equal : ∀ {store : Store} {place otherPlace : Place store}, facing store place otherPlace →
      value.eval store otherPlace = value.eval store place) :
    ExprRenamed facing .none value value where
  pieces := .refl _
  values faced := by
    rw [equal faced]
    exact (Corresponds.refl _).imp fun _ _ same => congrArg Cell.toJson same

/-- Members of objects that are renamed one by one. -/
inductive MembersRenamed (facing : Facing) :
    List MemberChange → List (String × Expr) → List (String × Expr) → Prop
  | nil : MembersRenamed facing [] [] []
  | cons (member : MemberChange) {members : List MemberChange} {value other : Expr}
      {values others : List (String × Expr)}
      (first : ExprRenamed facing member.toChange value other)
      (rest : MembersRenamed facing members values others) :
      MembersRenamed facing (member :: members) ((member.key, value) :: values)
        ((member.renamed, other) :: others)

namespace MembersRenamed

variable {facing : Facing} {members more : List MemberChange}
  {values others moreValues moreOthers : List (String × Expr)}

theorem append (first : MembersRenamed facing members values others)
    (second : MembersRenamed facing more moreValues moreOthers) :
    MembersRenamed facing (members ++ more) (values ++ moreValues) (others ++ moreOthers) := by
  induction first with
  | nil => exact second
  | cons member first _ ih => exact .cons member first ih

/-- One value under several names. -/
theorem plain {value : Expr} (same : ExprRenamed facing .none value value)
    {names otherNames : List String} (count : names.length = otherNames.length) :
    MembersRenamed facing (plainChanges names otherNames)
      (names.map fun name => (name, value)) (otherNames.map fun name => (name, value)) := by
  induction names generalizing otherNames with
  | nil =>
    cases otherNames with
    | nil => exact .nil
    | cons _ _ => cases count
  | cons name names ih =>
    cases otherNames with
    | nil => cases count
    | cons otherName otherNames => exact .cons _ same (ih (Nat.succ.inj count))

variable (renamed : MembersRenamed facing members values others)

include renamed

theorem pieces : Rewritten (Change.object members).keys (separated ", " (memberPieces values))
    (separated ", " (memberPieces others)) := by
  induction renamed with
  | nil => exact .nil
  | cons member first rest ih =>
    have here := Rewritten.key (member.key, member.renamed) (.same (.code ", ") first.pieces)
    cases rest with
    | nil => simpa [separated, memberPieces, Change.object] using here
    | cons _ _ => exact here.append (.same _ ih)

theorem eval {store : Store} {place otherPlace : Place store}
    (faced : facing store place otherPlace) :
    Parallel (MembersRekeyed members) (evalMembers store place values)
      (evalMembers store otherPlace others) := by
  induction renamed with
  | nil => exact .ok .nil
  | cons member first _ ih =>
    refine (first.values faced).bind fun cell otherCell value => ih.bind fun _ _ rest => ?_
    exact .ok (.cons value rest)

theorem object : ExprRenamed facing (.object members) (.object values) (.object others) where
  pieces := .between [_] [_] renamed.pieces
  values faced := (renamed.eval faced).bind fun _ _ each => .ok (.object each)

end MembersRenamed

end SelectGraph.Sql
