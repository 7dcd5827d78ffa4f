import Mathlib
import SelectGraph.Sql.Render

/-!
# Queries that differ in their arguments only

Two queries are alike if they are written with the same pieces, except that placeholders may stand
for different values.  Then they have one text, and their arguments agree place by place up to those
values.  Each construct of the query language keeps this.
-/

namespace SelectGraph.Sql

open List

variable {replaced : Literal → Literal → Prop}
  {parts others conditions otherConditions : List Predicate} {values : List Literal}
  {other query : Query} {cols otherColumns : Columns}

/-- Pieces are alike if they are equal or placeholders for related values. -/
inductive Piece.Alike (replaced : Literal → Literal → Prop) : Piece → Piece → Prop
  | same (piece : Piece) : Piece.Alike replaced piece piece
  | argument {value other : Literal} (related : replaced value other) :
      Piece.Alike replaced (.argument value) (.argument other)

/-- Sequences of pieces that are alike place by place. -/
def PiecesAlike (replaced : Literal → Literal → Prop) : List Piece → List Piece → Prop :=
  List.Forall₂ (Piece.Alike replaced)

namespace PiecesAlike

variable {pieces others more otherMore : List Piece}

theorem refl (pieces : List Piece) : PiecesAlike replaced pieces pieces :=
  forall₂_same.mpr fun piece _ => .same piece

theorem cons (piece : Piece) (rest : PiecesAlike replaced pieces others) :
    PiecesAlike replaced (piece :: pieces) (piece :: others) :=
  List.Forall₂.cons (.same _) rest

theorem append (first : PiecesAlike replaced pieces others)
    (second : PiecesAlike replaced more otherMore) :
    PiecesAlike replaced (pieces ++ more) (others ++ otherMore) :=
  rel_append first second

/-- Alike pieces between equal ones. -/
theorem between (before after : List Piece) (middle : PiecesAlike replaced pieces others) :
    PiecesAlike replaced (before ++ pieces ++ after) (before ++ others ++ after) :=
  ((refl _).append middle).append (refl _)

theorem separated (separator : String) {parts otherParts : List (List Piece)}
    (each : List.Forall₂ (PiecesAlike replaced) parts otherParts) :
    PiecesAlike replaced (separated separator parts) (Sql.separated separator otherParts) := by
  induction each with
  | nil => exact .refl []
  | @cons part otherPart parts otherParts first rest ih =>
    cases rest with
    | nil => exact first
    | cons _ _ => exact first.append (.cons _ ih)

/-- Alike pieces have one text. -/
theorem sqlText_eq (alike : PiecesAlike replaced pieces others) :
    sqlText pieces = sqlText others := by
  have texts : pieces.map Piece.sql = others.map Piece.sql := by
    induction alike with
    | nil => rfl
    | cons first _ ih =>
      rw [map_cons, ih]
      cases first <;> rfl
  rw [sqlText, texts, sqlText]

/-- The arguments of alike pieces agree place by place, up to the related values. -/
theorem arguments (alike : PiecesAlike replaced pieces others) :
    List.Forall₂ (fun value other => value = other ∨ replaced value other)
      (arguments pieces) (Sql.arguments others) := by
  induction alike with
  | nil => exact .nil
  | @cons piece other pieces others first _ ih =>
    cases first with
    | argument related => exact .cons (.inr related) ih
    | same =>
      cases piece with
      | argument value => exact .cons (.inl rfl) ih
      | _ => exact ih

end PiecesAlike

/-! ## Pieces of lists -/

theorem memberPieces_eq (members : List (String × Expr)) :
    memberPieces members =
      members.map fun member => .text member.1 :: .code ", " :: member.2.pieces := by
  induction members with
  | nil => rfl
  | cons member members ih => rw [memberPieces, ih, map_cons]

theorem predicatePieces_eq (parts : List Predicate) :
    predicatePieces parts = parts.map Predicate.pieces := by
  induction parts with
  | nil => rfl
  | cons part parts ih => rw [predicatePieces, ih, map_cons]

/-- The pieces that name a projected column. -/
def aliasPieces : Option String → List Piece
  | some aliasName => [.code " AS ", .name aliasName]
  | none => []

theorem columnPieces_eq (cols : Columns) :
    columnPieces cols = cols.map fun col => col.1.pieces ++ aliasPieces col.2 := by
  induction cols with
  | nil => rfl
  | cons col cols ih =>
    obtain ⟨value, alias?⟩ := col
    rw [map_cons, ← ih]
    cases alias? <;> rfl

theorem pieces_oneOf {col : ColumnRef} (given : values ≠ []) :
    (Predicate.oneOf col values).pieces = col.pieces ++ (.code " IN (" ::
      separated "," (values.map fun value => [.argument value]) ++ [.code ")"]) := by
  rw [Predicate.pieces, append_assoc]
  exact given

/-! ## Constructs -/

def Expr.Alike (replaced : Literal → Literal → Prop) (value other : Expr) : Prop :=
  PiecesAlike replaced value.pieces other.pieces

def Predicate.Alike (replaced : Literal → Literal → Prop) (part other : Predicate) : Prop :=
  PiecesAlike replaced part.pieces other.pieces

def Query.Alike (replaced : Literal → Literal → Prop) (query other : Query) : Prop :=
  PiecesAlike replaced query.pieces other.pieces

theorem Expr.Alike.refl (value : Expr) : value.Alike replaced value :=
  PiecesAlike.refl _

theorem Predicate.Alike.refl (part : Predicate) : part.Alike replaced part :=
  PiecesAlike.refl _

/-- Members with equal names and alike values. -/
def MembersAlike (replaced : Literal → Literal → Prop) :
    List (String × Expr) → List (String × Expr) → Prop :=
  List.Forall₂ fun member other => member.1 = other.1 ∧ member.2.Alike replaced other.2

/-- Projected columns with equal names and alike values. -/
def ColumnsAlike (replaced : Literal → Literal → Prop) :
    List (Expr × Option String) → List (Expr × Option String) → Prop :=
  List.Forall₂ fun col other => col.1.Alike replaced other.1 ∧ col.2 = other.2

def PartsAlike (replaced : Literal → Literal → Prop) : List Predicate → List Predicate → Prop :=
  List.Forall₂ (Predicate.Alike replaced)

theorem MembersAlike.refl (members : List (String × Expr)) :
    MembersAlike replaced members members :=
  forall₂_same.mpr fun member _ => ⟨rfl, .refl member.2⟩

theorem ColumnsAlike.refl (cols : Columns) :
    ColumnsAlike replaced cols cols :=
  forall₂_same.mpr fun col _ => ⟨.refl col.1, rfl⟩

theorem PartsAlike.refl (parts : List Predicate) : PartsAlike replaced parts parts :=
  forall₂_same.mpr fun part _ => .refl part

theorem PartsAlike.pieces (alike : PartsAlike replaced parts others) :
    List.Forall₂ (PiecesAlike replaced) (predicatePieces parts) (predicatePieces others) := by
  rw [predicatePieces_eq, predicatePieces_eq, forall₂_map_left_iff, forall₂_map_right_iff]
  exact alike

theorem Expr.Alike.object {members others : List (String × Expr)}
    (alike : MembersAlike replaced members others) :
    (Expr.object members).Alike replaced (.object others) := by
  refine .between [_] [_] (.separated _ ?_)
  rw [memberPieces_eq, memberPieces_eq, forall₂_map_left_iff, forall₂_map_right_iff]
  refine alike.imp ?_
  rintro ⟨key, value⟩ ⟨_, other⟩ ⟨rfl, values⟩
  exact .cons _ (.cons _ values)

theorem Query.Alike.anyRow (alike : query.Alike replaced other) :
    (Expr.anyRow query).Alike replaced (.anyRow other) := .between [_] [_] alike

theorem Query.Alike.subquery (alike : query.Alike replaced other) :
    (Expr.subquery query).Alike replaced (.subquery other) := .between [_] [_] alike

theorem Predicate.Alike.comparison {value other : Literal} (related : replaced value other)
    (col : ColumnRef) (rel : String) :
    PiecesAlike replaced (comparison col rel value) (comparison col rel other) :=
  (PiecesAlike.refl _).append (.cons _ (List.Forall₂.cons (.argument related) .nil))

theorem Predicate.Alike.any (alike : PartsAlike replaced parts others) :
    (Predicate.any parts).Alike replaced (.any others) := by
  cases alike with
  | nil => exact .refl _
  | cons first rest =>
    exact .between [_] [_] (.separated _ (PartsAlike.pieces (.cons first rest)))

theorem Predicate.Alike.all (alike : PartsAlike replaced parts others) :
    (Predicate.all parts).Alike replaced (.all others) := by
  cases alike with
  | nil => exact .refl _
  | cons first rest =>
    exact .between [_] [_] (.separated _ (PartsAlike.pieces (.cons first rest)))

theorem Predicate.Alike.oneOf {others : List Literal}
    (alike : List.Forall₂ (fun value other => value = other ∨ replaced value other) values others)
    (col : ColumnRef) :
    (Predicate.oneOf col values).Alike replaced (.oneOf col others) := by
  cases alike with
  | nil => exact .refl _
  | @cons value other values others first rest =>
    have args : List.Forall₂ (PiecesAlike replaced)
        ((value :: values).map fun value => [.argument value])
        ((other :: others).map fun value => [.argument value]) := by
      rw [forall₂_map_left_iff, forall₂_map_right_iff]
      refine .imp ?_ (.cons first rest)
      rintro value other (rfl | related)
      · exact .refl _
      · exact List.Forall₂.cons (.argument related) .nil
    rw [Predicate.Alike, pieces_oneOf (cons_ne_nil _ _)]
    exact (PiecesAlike.refl _).append (.between [_] [_] (.separated _ args))

def filterPieces : List Predicate → List Piece
  | [] => []
  | conditions => .code " WHERE " :: separated " AND " (predicatePieces conditions)

/-- The pieces of the definition of a common table expression. -/
def definitionPieces : Option (String × Query) → List Piece
  | some (name, body) => .code "WITH " :: .name name :: .code " AS (" :: body.pieces ++ [.code ") "]
  | none => []

def orderingPieces : Option (List OrderTerm) → List Piece
  | some order => .code " ORDER BY " :: orderPieces order
  | none => []

def limitPieces : Option Nat → List Piece
  | some limit => [.code (" LIMIT " ++ toString limit)]
  | none => []

theorem pieces_select (decl : Option (String × Query)) (cols : Columns)
    (source : Source) (conditions : List Predicate) (order : Option (List OrderTerm))
    (limit : Option Nat) :
    (Query.select decl cols source conditions order limit).pieces =
      definitionPieces decl ++ .code "SELECT " :: separated ", " (columnPieces cols) ++
        .code " FROM " :: source.pieces ++ filterPieces conditions ++ orderingPieces order ++
        limitPieces limit := by
  cases decl <;> cases conditions <;> cases order <;> cases limit <;> rfl

variable (columnsAlike : ColumnsAlike replaced cols otherColumns)

include columnsAlike

theorem Query.Alike.select (conditionsAlike : PartsAlike replaced conditions otherConditions)
    {decl otherDefinition : Option (String × Query)} (definitions : Option.Rel
      (fun entry other => entry.1 = other.1 ∧ entry.2.Alike replaced other.2)
      decl otherDefinition) (source : Source) (order : Option (List OrderTerm))
    (limit : Option Nat) :
    (Query.select decl cols source conditions order limit).Alike replaced
      (.select otherDefinition otherColumns source otherConditions order limit) := by
  have front : PiecesAlike replaced (definitionPieces decl)
      (definitionPieces otherDefinition) := by
    cases definitions with
    | none => exact .refl []
    | @some entry other same =>
      obtain ⟨_, otherBody⟩ := other
      obtain ⟨rfl, bodies⟩ := same
      exact .between [_, _, _] [_] bodies
  have projected : List.Forall₂ (PiecesAlike replaced) (columnPieces cols)
      (columnPieces otherColumns) := by
    rw [columnPieces_eq, columnPieces_eq, forall₂_map_left_iff, forall₂_map_right_iff]
    refine columnsAlike.imp ?_
    rintro ⟨value, name⟩ ⟨other, _⟩ ⟨values, rfl⟩
    exact .append values (.refl _)
  have filter : PiecesAlike replaced (filterPieces conditions) (filterPieces otherConditions) := by
    cases conditionsAlike with
    | nil => exact .refl []
    | cons first rest => exact .cons _ (.separated _ (PartsAlike.pieces (.cons first rest)))
  rw [Query.Alike, pieces_select, pieces_select]
  exact ((((front.append (.cons _ (.separated _ projected))).append (.refl _)).append
    filter).append (.refl _)).append (.refl _)

/-- The query without a common table expression of its own. -/
theorem Query.Alike.plain (conditionsAlike : PartsAlike replaced conditions otherConditions)
    (source : Source) (order : Option (List OrderTerm)) (limit : Option Nat) :
    (Query.select none cols source conditions order limit).Alike replaced
      (.select none otherColumns source otherConditions order limit) :=
  .select columnsAlike conditionsAlike .none _ _ _

end SelectGraph.Sql
