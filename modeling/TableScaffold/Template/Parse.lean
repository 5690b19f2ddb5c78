import TableScaffold.Template.Body
import TableScaffold.Template.Piece

/-!
# Templates from their text

The atoms of a slot form one expression, those of a tag a statement. Loops and branches hold what
stands up to the tag that ends them.

Not all of the template language is read. Macros, blocks, imports, tests, calls, mappings, slices, most
filters and the keywords of statements beyond those here are not, and a template that has one of them
counts as malformed.
-/

namespace TableScaffold.Template

/-- An expression together with the atoms after it. -/
abbrev Taken := Option (Expr × List Atom)

namespace Expr

/-- The expression of a name. -/
def ofName (s : String) : Expr :=
  if s == "true" || s == "True" then .bool true
  else if s == "false" || s == "False" then .bool false
  else if s == "none" || s == "None" then .null
  else .name s

/-- The texts that follow each other form one. -/
def joinTexts (s : String) : List Atom → Expr × List Atom
  | .text t :: rest => joinTexts (s ++ t) rest
  | as => (.text s, as)

/-- The comparison that a sign stands for. -/
def comparisonOf (s : String) : Option Comparison :=
  [("==", .equal), ("!=", .unequal), ("<", .less), ("<=", .atMost), (">", .greater),
   (">=", .atLeast)].lookup s

mutual

/-- A value with a choice: `yes if test else no`. -/
def choice : Nat → List Atom → Taken
  | 0, _ => none
  | fuel + 1, as => do
    let (e, rest) ← disjunction fuel as
    choiceRest fuel e rest

/-- The tests after a value. -/
def choiceRest : Nat → Expr → List Atom → Taken
  | 0, _, _ => none
  | fuel + 1, e, .name "if" :: rest => do
    let (test, rest) ← disjunction fuel rest
    match rest with
    | .name "else" :: rest => do
      let (other, rest) ← choice fuel rest
      choiceRest fuel (.choose test e other) rest
    | _ => choiceRest fuel (.onlyIf test e) rest
  | _, e, rest => some (e, rest)

/-- Values joined by `or`. -/
def disjunction : Nat → List Atom → Taken
  | 0, _ => none
  | fuel + 1, as => do
    let (l, rest) ← conjunction fuel as
    disjunctionRest fuel l rest

/-- The further values joined by `or`. -/
def disjunctionRest : Nat → Expr → List Atom → Taken
  | 0, _, _ => none
  | fuel + 1, l, .name "or" :: rest => do
    let (r, rest) ← conjunction fuel rest
    disjunctionRest fuel (.or l r) rest
  | _, l, rest => some (l, rest)

/-- Values joined by `and`. -/
def conjunction : Nat → List Atom → Taken
  | 0, _ => none
  | fuel + 1, as => do
    let (l, rest) ← negation fuel as
    conjunctionRest fuel l rest

/-- The further values joined by `and`. -/
def conjunctionRest : Nat → Expr → List Atom → Taken
  | 0, _, _ => none
  | fuel + 1, l, .name "and" :: rest => do
    let (r, rest) ← negation fuel rest
    conjunctionRest fuel (.and l r) rest
  | _, l, rest => some (l, rest)

/-- A value, perhaps after `not`. -/
def negation : Nat → List Atom → Taken
  | 0, _ => none
  | fuel + 1, .name "not" :: rest => (negation fuel rest).map fun (e, r) => (.not e, r)
  | fuel + 1, as => do
    let (l, rest) ← sum fuel as
    comparisons fuel l none rest

/-- A chain of comparisons; `sofar` holds those before the value `l`. -/
def comparisons : Nat → Expr → Option Expr → List Atom → Taken
  | 0, _, _, _ => none
  | fuel + 1, l, sofar, .sign s :: rest =>
    match comparisonOf s with
    | some op => do
      let (r, rest) ← sum fuel rest
      let here := Expr.comparison op l r
      comparisons fuel r (some ((sofar.map (Expr.and · here)).getD here)) rest
    | none => some (sofar.getD l, .sign s :: rest)
  | _, l, sofar, rest => some (sofar.getD l, rest)

/-- Values joined by plus and minus signs. -/
def sum : Nat → List Atom → Taken
  | 0, _ => none
  | fuel + 1, as => do
    let (l, rest) ← chain fuel as
    sumRest fuel l rest

/-- The further values of a sum. -/
def sumRest : Nat → Expr → List Atom → Taken
  | 0, _, _ => none
  | fuel + 1, l, .sign "+" :: rest => do
    let (r, rest) ← chain fuel rest
    sumRest fuel (.operation .add l r) rest
  | fuel + 1, l, .sign "-" :: rest => do
    let (r, rest) ← chain fuel rest
    sumRest fuel (.operation .subtract l r) rest
  | _, l, rest => some (l, rest)

/-- Values joined as text. -/
def chain : Nat → List Atom → Taken
  | 0, _ => none
  | fuel + 1, as => do
    let (l, rest) ← product fuel as
    chainRest fuel l rest

/-- The further values joined as text. -/
def chainRest : Nat → Expr → List Atom → Taken
  | 0, _, _ => none
  | fuel + 1, l, .sign "~" :: rest => do
    let (r, rest) ← product fuel rest
    chainRest fuel (.operation .join l r) rest
  | _, l, rest => some (l, rest)

/-- Values joined by signs of multiplication and division. -/
def product : Nat → List Atom → Taken
  | 0, _ => none
  | fuel + 1, as => do
    let (l, rest) ← unary fuel as
    productRest fuel l rest

/-- The further values of a product. -/
def productRest : Nat → Expr → List Atom → Taken
  | 0, _, _ => none
  | fuel + 1, l, .sign "*" :: rest => do
    let (r, rest) ← unary fuel rest
    productRest fuel (.operation .multiply l r) rest
  | fuel + 1, l, .sign "/" :: rest => do
    let (r, rest) ← unary fuel rest
    productRest fuel (.operation .divide l r) rest
  | _, l, rest => some (l, rest)

/-- A value with its sign and its filters. -/
def unary : Nat → List Atom → Taken
  | 0, _ => none
  | fuel + 1, as => do
    let (e, rest) ← signed fuel as
    filters fuel e rest

/-- A value with its sign. -/
def signed : Nat → List Atom → Taken
  | 0, _ => none
  | fuel + 1, .sign "-" :: rest => (signed fuel rest).map fun (e, r) => (.negative e, r)
  | fuel + 1, .sign "+" :: rest => (signed fuel rest).map fun (e, r) => (.positive e, r)
  | fuel + 1, as => do
    let (e, rest) ← primary fuel as
    parts fuel e rest

/-- A value without signs. -/
def primary : Nat → List Atom → Taken
  | 0, _ => none
  | fuel + 1, a :: rest =>
    match a with
    | .name s => some (ofName s, rest)
    | .whole n => some (.whole n, rest)
    | .decimal d e => some (.decimal d e, rest)
    | .text s => some (joinTexts s rest)
    | .sign "(" => do
      let (e, rest) ← choice fuel rest
      match rest with
      | .sign ")" :: rest => some (e, rest)
      | _ => none
    | .sign "[" => listItems fuel rest
    | .sign _ => none
  | _, [] => none

/-- The items of a list after its opening bracket or a comma. -/
def listItems : Nat → List Atom → Taken
  | 0, _ => none
  | _, .sign "]" :: rest => some (.emptyList, rest)
  | fuel + 1, as => do
    let (e, rest) ← choice fuel as
    match rest with
    | .sign "," :: rest => do
      let (es, rest) ← listItems fuel rest
      some (.cons e es, rest)
    | .sign "]" :: rest => some (.cons e .emptyList, rest)
    | _ => none

/-- The attributes and items that are taken from a value. -/
def parts : Nat → Expr → List Atom → Taken
  | 0, _, _ => none
  | fuel + 1, e, .sign "." :: .name key :: rest => parts fuel (.entry e key) rest
  | fuel + 1, e, .sign "." :: .whole n :: rest => parts fuel (.item e (.whole n)) rest
  | fuel + 1, e, .sign "[" :: rest => do
    let (key, rest) ← choice fuel rest
    match rest with
    | .sign "]" :: rest => parts fuel (.item e key) rest
    | _ => none
  | _, e, rest => some (e, rest)

/-- The filters after a value. -/
def filters : Nat → Expr → List Atom → Taken
  | 0, _, _ => none
  | fuel + 1, e, .sign "|" :: .name f :: .sign "(" :: .sign ")" :: rest =>
    filters fuel (.filter e f) rest
  | fuel + 1, e, .sign "|" :: .name f :: rest => filters fuel (.filter e f) rest
  | _, e, rest => some (e, rest)

end

/-- The fuel that suffices for some atoms. -/
def fuelFor (as : List Atom) : Nat := 16 * (as.length + 1)

/-- The expression that all atoms form. -/
def ofAtoms? (as : List Atom) : Option Expr :=
  match choice (fuelFor as) as with
  | some (e, []) => some e
  | _ => none

/-- The expression without a choice that all atoms form. -/
def plainOfAtoms? (as : List Atom) : Option Expr :=
  match disjunction (fuelFor as) as with
  | some (e, []) => some e
  | _ => none

end Expr

/-! ## Filters -/

/-- The filters that are read; a template with another one counts as malformed. -/
def filterNames : List String := ["camel_case", "upper", "lower", "length", "count"]

/-- Whether every filter of an expression is known, apart from those that a choice decides on. -/
def Expr.filtersKnown : Expr → Bool
  | .filter e f => filterNames.contains f && e.filtersKnown
  | .cons a b | .item a b | .operation _ a b | .comparison _ a b | .and a b | .or a b =>
    a.filtersKnown && b.filtersKnown
  | .entry e _ | .negative e | .positive e | .not e => e.filtersKnown
  | .null | .bool _ | .whole _ | .decimal .. | .text _ | .emptyList | .name _ | .choose ..
  | .onlyIf .. => true

/-- Whether every filter of a template is known, apart from those that a branch decides on; `decided`
says that the template stands in a branch itself. -/
def Body.filtersKnown (decided : Bool) : Body → Bool
  | .done => true
  | .text _ rest => rest.filtersKnown decided
  | .output e rest | .assign _ e rest | .embed e _ rest =>
    (decided || e.filtersKnown) && rest.filtersKnown decided
  | .each _ items body otherwise rest =>
    (decided || items.filtersKnown) && body.filtersKnown false && otherwise.filtersKnown false
      && rest.filtersKnown decided
  | .branch _ yes no rest =>
    yes.filtersKnown true && no.filtersKnown true && rest.filtersKnown decided

/-! ## Statements -/

namespace Body

/-- The names that cannot be assigned. -/
def fixedNames : List String := ["true", "false", "none", "True", "False", "None"]

/-- The tags that end a part. -/
def endWords : List String := ["else", "elif", "endif", "endfor"]

/-- The file and the options of an included template. -/
def inclusion? (as : List Atom) : Option (Expr × Bool) := do
  let (e, rest) ← Expr.choice (Expr.fuelFor as) as
  let (isOptional, rest) := match rest with
    | .name "ignore" :: .name "missing" :: rest => (true, rest)
    | _ => (false, rest)
  match rest with
  | [] => some (e, isOptional)
  | [.name "with", .name "context"] => some (e, isOptional)
  | _ => none

/-- The variable and the items of a loop. -/
def loop? (as : List Atom) : Option (String × Expr) :=
  match as with
  | .name var :: .name "in" :: rest =>
    if fixedNames.contains var then none else (Expr.plainOfAtoms? rest).map (var, ·)
  | _ => none

/-- A template together with the tag that ends it and the pieces after that tag. -/
abbrev Ended := Option (Body × Option (List Atom) × List Piece)

mutual

/-- The template up to a tag that ends a part, or up to the end. -/
def part : Nat → List Piece → Ended
  | 0, _ => none
  | _, [] => some (.done, none, [])
  | fuel + 1, .text s :: rest => do
    let (b, e, rest) ← part fuel rest
    return (.text s b, e, rest)
  | fuel + 1, .slot as :: rest => do
    let x ← Expr.ofAtoms? as
    let (b, e, rest) ← part fuel rest
    return (.output x b, e, rest)
  | fuel + 1, .tag (.name w :: as) :: rest =>
    if endWords.contains w then some (.done, some (.name w :: as), rest)
    else if w == "for" then do
      let (var, items) ← loop? as
      let (body, e, rest) ← part fuel rest
      let (otherwise, rest) ← match e with
        | some [.name "endfor"] => some (Body.done, rest)
        | some [.name "else"] => do
          let (otherwise, e, rest) ← part fuel rest
          if e = some [.name "endfor"] then some (otherwise, rest) else none
        | _ => none
      let (b, e, rest) ← part fuel rest
      return (.each var items body otherwise b, e, rest)
    else if w == "if" then do
      let (test, yes, no, rest) ← branches fuel as rest
      let (b, e, rest) ← part fuel rest
      return (.branch test yes no b, e, rest)
    else if w == "set" then
      match as with
      | .name var :: .sign "=" :: as =>
        if fixedNames.contains var then none
        else do
          let x ← Expr.ofAtoms? as
          let (b, e, rest) ← part fuel rest
          return (.assign var x b, e, rest)
      | _ => none
    else if w == "include" then do
      let (file, isOptional) ← inclusion? as
      let (b, e, rest) ← part fuel rest
      return (.embed file isOptional b, e, rest)
    else none
  | _, .tag _ :: _ => none

/-- A branch after its first word: the test, both sides, and the pieces after its end. -/
def branches : Nat → List Atom → List Piece → Option (Expr × Body × Body × List Piece)
  | 0, _, _ => none
  | fuel + 1, as, rest => do
    let test ← Expr.plainOfAtoms? as
    let (yes, e, rest) ← part fuel rest
    match e with
    | some [.name "endif"] => some (test, yes, .done, rest)
    | some [.name "else"] => do
      let (no, e, rest) ← part fuel rest
      if e = some [.name "endif"] then some (test, yes, no, rest) else none
    | some (.name "elif" :: as) => do
      let (test', yes', no', rest) ← branches fuel as rest
      some (test, yes, .branch test' yes' no' .done, rest)
    | _ => none

end

/-- The template that a text stands for, if the text has nothing but what is read of the language. -/
def ofText? (source : List Char) : Option Body := do
  let ps ← pieces? source
  match part (2 * ps.length + 2) ps with
  | some (b, none, _) => if b.filtersKnown false then some b else none
  | _ => none

end Body

end TableScaffold.Template
