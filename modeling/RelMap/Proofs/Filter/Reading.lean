import RelMap.Proofs.Evaluation.Cache
import RelMap.Proofs.Filter.Writing

/-!
# What filters read as

What a filter reads as once it is written as SQL, given the values bound for it. Operators that read
the entity are grouped as they are in the filter. What does not read the entity is a parameter, or
decides on the spot; a negated property and a comparison with null or with a truth value have forms
of their own.
-/

namespace RelMap.Filter

open Evaluation (value)
open Sql (Tree)

variable {σ : Type}

/-- A tree with its case folded, if case is ignored. -/
def foldedTree (fold : Bool) (t : Tree) : Tree := if fold then .call "LOWER" [t] else t

/-- What an expression in the place of a term reads as, given all bound values. -/
inductive TermReads (s : Setting σ) (sp : Spelling) (bound : List Value) : Expr → Tree → Prop where
  | null {e} :
    e.dependsOnParameter = false →
    value e = .ok .null →
    TermReads s sp bound e .null
  | value {e v i} :
    e.dependsOnParameter = false →
    value e = .ok v →
    v ≠ .null →
    v.isList = false →
    bound[i]? = some v →
    TermReads s sp bound e (.mark (sp.dialect.placeholder i))
  | property {e name column} :
    e.property? = some name →
    s.mapping.requireColumn name = .ok column →
    TermReads s sp bound e (.column sp.tableAlias column)
  | convert {e t} (target : Kind) :
    e.dependsOnParameter = true →
    TermReads s sp bound e t →
    TermReads s sp bound (.convert target e) t
  | negate {e t} :
    e.dependsOnParameter = true →
    TermReads s sp bound e t →
    TermReads s sp bound (.negate e) (.negate t)
  | arithmetic {l r t u} (op : Arithmetic) :
    (Expr.binary (.arithmetic op) l r).dependsOnParameter = true →
    TermReads s sp bound l t →
    TermReads s sp bound r u →
    TermReads s sp bound (.binary (.arithmetic op) l r) (.arithmetic op t u)
  | coalesce {l r t u} :
    (Expr.binary .coalesce l r).dependsOnParameter = true →
    TermReads s sp bound l t →
    TermReads s sp bound r u →
    TermReads s sp bound (.binary .coalesce l r) (.call "COALESCE" [t, u])
  | function {e t method function} :
    (Expr.invoke e method []).dependsOnParameter = true →
    textFunction? method = some function →
    TermReads s sp bound e t →
    TermReads s sp bound (.invoke e method []) (.call function.sql [t])

/-- What a test for membership reads as. -/
inductive MembershipReads (s : Setting σ) (sp : Spelling) (bound : List Value)
    (collection item : Expr) : Tree → Prop where
  | never :
    value collection = .ok (.list []) →
    MembershipReads s sp bound collection item (.truth false)
  | isNull {vs t} :
    value collection = .ok (.list vs) →
    vs ≠ [] →
    vs.filter (!·.isNullLike s.emptyStringIsNull) = [] →
    TermReads s sp bound item t →
    MembershipReads s sp bound collection item (.isNull t false)
  | among {vs t items} :
    value collection = .ok (.list vs) →
    vs.any (·.isNullLike s.emptyStringIsNull) = false →
    TermReads s sp bound item t →
    items.map (bound[·]?) = vs.map some →
    MembershipReads s sp bound collection item (.among t (sp.marks items))
  | amongOrNull {vs t items u} :
    value collection = .ok (.list vs) →
    vs.any (·.isNullLike s.emptyStringIsNull) = true →
    TermReads s sp bound item t →
    items.map (bound[·]?) = (vs.filter (!·.isNullLike s.emptyStringIsNull)).map some →
    TermReads s sp bound item u →
    MembershipReads s sp bound collection item
      (.connect .or (.among t (sp.marks items)) (.isNull u false))

/-- Which side of a comparison reads the entity, and which one is captured. -/
inductive Sides : Expr → Expr → Expr → Expr → Bool → Prop where
  | right {l r} :
    l.dependsOnParameter = true →
    r.dependsOnParameter = false →
    Sides l r l r false
  | left {l r} :
    l.dependsOnParameter = false →
    r.dependsOnParameter = true →
    Sides l r r l true

/-- What an expression in the place of a condition reads as, given all bound values. -/
inductive ConditionReads (s : Setting σ) (sp : Spelling) (bound : List Value) :
    Expr → Tree → Prop where
  | truth {e b} :
    e.dependsOnParameter = false →
    value e = .ok (.bool b) →
    ConditionReads s sp bound e (.truth b)
  | null {e} :
    e.dependsOnParameter = false →
    value e = .ok .null →
    ConditionReads s sp bound e (.truth false)
  | property {e name column} :
    e.property? = some name →
    s.mapping.requireColumn name = .ok column →
    ConditionReads s sp bound e (sp.flag column true)
  | notProperty {e name column} :
    e.property? = some name →
    s.mapping.requireColumn name = .ok column →
    ConditionReads s sp bound (.not e) (sp.flag column false)
  | not {e t} :
    e.dependsOnParameter = true →
    e.property? = none →
    ConditionReads s sp bound e t →
    ConditionReads s sp bound (.not e) (.not t)
  | connect {l r t u} (op : Connective) :
    (Expr.binary (.connective op) l r).dependsOnParameter = true →
    ConditionReads s sp bound l t →
    ConditionReads s sp bound r u →
    ConditionReads s sp bound (.binary (.connective op) l r) (.connect op t u)
  | compare {l r t u} (op : Comparison) :
    l.dependsOnParameter = true →
    r.dependsOnParameter = true →
    TermReads s sp bound l t →
    TermReads s sp bound r u →
    ConditionReads s sp bound (.binary (.comparison op) l r) (.compare op t u)
  /-- A comparison with null for equality is a test for null. -/
  | isNull {l r e captured left v t} :
    Sides l r e captured left →
    value captured = .ok v →
    v.isNullLike s.emptyStringIsNull = true →
    TermReads s sp bound e t →
    ConditionReads s sp bound (.binary (.comparison .eq) l r) (.isNull t false)
  | isNotNull {l r e captured left v t} :
    Sides l r e captured left →
    value captured = .ok v →
    v.isNullLike s.emptyStringIsNull = true →
    TermReads s sp bound e t →
    ConditionReads s sp bound (.binary (.comparison .ne) l r) (.isNull t true)
  /-- An ordering comparison with null never holds. -/
  | never {l r e captured left v} (op : Comparison) :
    Sides l r e captured left →
    value captured = .ok v →
    v.isNullLike s.emptyStringIsNull = true →
    op ≠ .eq →
    op ≠ .ne →
    ConditionReads s sp bound (.binary (.comparison op) l r) (.truth false)
  /-- A boolean property is compared with a literal. -/
  | flag {l r e captured left v expected name column} (op : Comparison) :
    Sides l r e captured left →
    value captured = .ok v →
    expected? op v = some expected →
    e.property? = some name →
    s.mapping.requireColumn name = .ok column →
    ConditionReads s sp bound (.binary (.comparison op) l r) (sp.flag column expected)
  /-- A condition compared with a truth value is the condition itself, or its negation. -/
  | holds {l r e captured left v t} (op : Comparison) :
    Sides l r e captured left →
    value captured = .ok v →
    expected? op v = some true →
    isConditionShaped e = true →
    ConditionReads s sp bound e t →
    ConditionReads s sp bound (.binary (.comparison op) l r) t
  | fails {l r e captured left v t} (op : Comparison) :
    Sides l r e captured left →
    value captured = .ok v →
    expected? op v = some false →
    isConditionShaped e = true →
    ConditionReads s sp bound e t →
    ConditionReads s sp bound (.binary (.comparison op) l r) (.not t)
  /-- Any other value is compared as a parameter, on the side on which it stands. -/
  | value {l r e captured left v i t} (op : Comparison) :
    Sides l r e captured left →
    value captured = .ok v →
    v.isNullLike s.emptyStringIsNull = false →
    v.isList = false →
    (expected? op v = none ∨ e.property? = none ∧ isConditionShaped e = false) →
    bound[i]? = some (if folds s op v then foldedValue v else v) →
    TermReads s sp bound e t →
    ConditionReads s sp bound (.binary (.comparison op) l r)
      (if left then
        .compare op (foldedTree (folds s op v) (.mark (sp.dialect.placeholder i)))
          (foldedTree (folds s op v) t)
      else
        .compare op (foldedTree (folds s op v) t)
          (foldedTree (folds s op v) (.mark (sp.dialect.placeholder i))))
  | contained {l r t} :
    l.dependsOnParameter = false →
    r.dependsOnParameter = true →
    MembershipReads s sp bound l r t →
    ConditionReads s sp bound (.call .contains [l, r]) t
  | contains {l r t} :
    l.dependsOnParameter = true →
    r.dependsOnParameter = false →
    MembershipReads s sp bound r l t →
    ConditionReads s sp bound (.call .contains [l, r]) t
  | containedIn {e arg t} :
    e.dependsOnParameter = false →
    arg.dependsOnParameter = true →
    MembershipReads s sp bound e arg t →
    ConditionReads s sp bound (.invoke e .contains [arg]) t
  /-- A test of a text is a match with the pattern of the text that is looked for. -/
  | like {e method arg text i t} :
    method ∈ [Method.contains, .startsWith, .endsWith] →
    e.dependsOnParameter = true →
    arg.dependsOnParameter = false →
    value arg = .ok (.string text) →
    bound[i]? = some (.string (if s.ignoreCase then Text.lowercase (Pattern.ofMethod method text)
      else Pattern.ofMethod method text)) →
    TermReads s sp bound e t →
    ConditionReads s sp bound (.invoke e method [arg])
      (.like (foldedTree s.ignoreCase t)
        (foldedTree s.ignoreCase (.mark (sp.dialect.placeholder i))) "\\")

end RelMap.Filter
