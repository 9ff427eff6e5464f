import Mathlib.Logic.Basic
import TagTemplate.Document.Reading
import TagTemplate.Document.Written

namespace TagTemplate

theorem Json.word?_nat (n : UInt64) : Json.word? (.nat n.toNat) = some n := by
  have hrange : (0 : Int) ≤ n.toNat ∧ (n.toNat : Int) < UInt64.size :=
    ⟨Int.natCast_nonneg _, Int.ofNat_lt.2 n.toNat_lt⟩
  rw [Json.word?, Json.nat, Json.nat?, if_pos hrange, Option.map_some, Int.toNat_natCast,
    UInt64.ofNat_toNat]

theorem Json.byte?_nat (n : UInt8) : Json.byte? (.nat n.toNat) = some n := by
  have hrange : (0 : Int) ≤ n.toNat ∧ (n.toNat : Int) < UInt8.size :=
    ⟨Int.natCast_nonneg _, Int.ofNat_lt.2 n.toNat_lt⟩
  rw [Json.byte?, Json.nat, Json.nat?, if_pos hrange, Option.map_some, Int.toNat_natCast,
    UInt8.ofNat_toNat]

theorem Json.mapM_map {α : Type} {f : Json → Option α} {g : α → Json}
    (h : ∀ a, f (g a) = some a) (as : List α) : (as.map g).mapM f = some as := by
  induction as with
  | nil => rfl
  | cons a as ih =>
    rw [List.map_cons, List.mapM_cons, h, ih]
    rfl

theorem Json.list?_array_map {α : Type} {f : Json → Option α} {g : α → Json}
    (h : ∀ a, f (g a) = some a) (as : List α) : Json.list? f (.array (as.map g)) = some as :=
  Json.mapM_map h as

namespace ExprReading

mutual

theorem expr_toJson : (e : Expr) → (ofJson e.toJson).expr = some e
  | .code _ => rfl
  | .special _ none => rfl
  | .special _ (some _) => rfl
  | .call function args => by
    change ((((ofItems (Expr.toJsonList args)).mapM expr).bind fun args =>
      some (Expr.call function args)) <|> _) = _
    rw [exprs_toJson args]
    rfl
  | .static _ _ => rfl
  | .modified value modifiers => by
    change ((ofJson value.toJson).expr.bind fun value =>
      ((ofItems (Modifier.toJsonList modifiers)).mapM modifier).bind fun modifiers =>
        some (Expr.modified value modifiers)) = _
    rw [expr_toJson value, modifiers_toJson modifiers]
    rfl

theorem exprs_toJson : (es : List Expr) → (ofItems (Expr.toJsonList es)).mapM expr = some es
  | [] => rfl
  | e :: es => by
    rw [Expr.toJsonList, ofItems, List.mapM_cons, expr_toJson e, exprs_toJson es]
    rfl

theorem modifier_toJson : (m : Modifier) → (ofJson m.toJson).modifier = some m
  | ⟨name, args⟩ => by
    change (((ofItems (Expr.toJsonList args)).mapM expr).bind fun args =>
      some (Modifier.mk name args)) = _
    rw [exprs_toJson args]
    rfl

theorem modifiers_toJson :
    (ms : List Modifier) → (ofItems (Modifier.toJsonList ms)).mapM modifier = some ms
  | [] => rfl
  | m :: ms => by
    rw [Modifier.toJsonList, ofItems, List.mapM_cons, modifier_toJson m, modifiers_toJson ms]
    rfl

end

end ExprReading

theorem Expr.ofJson?_toJson (e : Expr) : Expr.ofJson? e.toJson = some e :=
  ExprReading.expr_toJson e

theorem Assignment.ofJson?_toJson (a : Assignment) : Assignment.ofJson? a.toJson = some a := by
  change ((Expr.ofJson? a.value.toJson).bind fun value => some (Assignment.mk a.var value)) = _
  rw [Expr.ofJson?_toJson]
  rfl

/-- A list of assignments is no assignment in the form of a list, which would start with a text. -/
theorem Assignment.ofJson?_array (as : List Assignment) :
    Assignment.ofJson? (.array (as.map Assignment.toJson)) = none := by
  match as with
  | [] => rfl
  | [_] => rfl
  | [_, _] => rfl
  | _ :: _ :: _ :: _ => rfl

theorem Assignment.ofJson?_expr (e : Expr) : Assignment.ofJson? e.toJson = none := by
  cases e <;> rfl

theorem Json.list?_expr {α : Type} (f : Json → Option α) (e : Expr) :
    Json.list? f e.toJson = none := by
  cases e <;> rfl

theorem Json.bool?_expr (e : Expr) : Json.bool? e.toJson = none := by
  cases e <;> rfl

theorem ArgValue.ofJson?_toJson (v : ArgValue) : ArgValue.ofJson? v.toJson = some v := by
  cases v with
  | assign a =>
    rw [ArgValue.ofJson?, ArgValue.toJson, Assignment.ofJson?_toJson]
    rfl
  | assigns as =>
    rw [ArgValue.ofJson?, ArgValue.toJson, Assignment.ofJson?_array,
      Json.list?_array_map Assignment.ofJson?_toJson]
    rfl
  | flag b => rfl
  | expr e =>
    rw [ArgValue.ofJson?, ArgValue.toJson, Assignment.ofJson?_expr, Json.list?_expr,
      Json.bool?_expr, Expr.ofJson?_toJson]
    rfl

theorem TagArg.named?_value (v : ArgValue) : TagArg.named? v.toJson = none := by
  cases v with
  | expr e => cases e <;> rfl
  | _ => rfl

theorem TagArg.flag?_value (v : ArgValue) : TagArg.flag? v.toJson = none := by
  cases v with
  | expr e => cases e <;> rfl
  | _ => rfl

theorem TagArg.ofJson?_toJson (a : TagArg) : TagArg.ofJson? a.toJson = some a := by
  cases a with
  | named name value =>
    change (((ArgValue.ofJson? value.toJson).bind fun value =>
      some (TagArg.named name value)) <|> _) = _
    rw [ArgValue.ofJson?_toJson]
    rfl
  | flag name => rfl
  | positional value =>
    rw [TagArg.ofJson?, TagArg.toJson, TagArg.named?_value, TagArg.flag?_value,
      ArgValue.ofJson?_toJson]
    rfl

theorem Tag.ofJson?_toJson (t : Tag) : Tag.ofJson? t.toJson = some t := by
  change ((Json.list? TagArg.ofJson? (.array (t.args.map TagArg.toJson))).bind fun args =>
    (Json.byte? (.nat t.variant.toNat)).bind fun variant =>
      (Json.word? (.nat t.line.toNat)).bind fun line => some (Tag.mk t.name args variant line)) = _
  rw [Json.list?_array_map TagArg.ofJson?_toJson, Json.byte?_nat, Json.word?_nat]
  rfl

theorem Node.ofJson?_toJson (n : Node) : Node.ofJson? n.toJson = some n := by
  cases n with
  | text content => rfl
  | print value line =>
    change (((Expr.ofJson? value.toJson).bind fun value =>
      (Json.word? (.nat line.toNat)).bind fun line => some (Node.print value line)) <|> _) = _
    rw [Expr.ofJson?_toJson, Json.word?_nat]
    rfl
  | tag t =>
    change ((Tag.ofJson? t.toJson).map Node.tag) = _
    rw [Tag.ofJson?_toJson]
    rfl

namespace Document

theorem nodesOfJson_toJson (nodes : List Node) : nodesOfJson (toJson nodes) = .ok nodes := by
  rw [toJson, nodesOfJson, Json.mapM_map Node.ofJson?_toJson]

/-- A written document, bare or as an object, reads back as its nodes. Hence writing what was read
and reading that again gives the same nodes. -/
theorem ofJson_toJson (nodes : List Node) (v : Json) :
    ofJson (toJson nodes) = .ok nodes ∧ ofJson (toObject nodes) = .ok nodes ∧
      ((ofJson v).bind fun read => ofJson (toJson read)) = ofJson v := by
  have hbare (nodes : List Node) : ofJson (toJson nodes) = .ok nodes := nodesOfJson_toJson nodes
  refine ⟨hbare nodes, nodesOfJson_toJson nodes, ?_⟩
  cases h : ofJson v with
  | error e => rfl
  | ok read => exact hbare read

end Document

end TagTemplate
