import LogReview.Java.Statement

/-! Whole files of Java, and the recursion that ties all rules together. -/
namespace LogReview.Java

open Grammar

/-- The rule of each goal. -/
def produce (rec : Reader) : Reader
  | .expression level inLabel => expression rec level inLabel
  | .type => type rec
  | .unannotatedType => unannotatedType rec
  | .annotationUse => annotationUse rec
  | .elementValue => elementValue rec
  | .initializer => initializer rec
  | .recordPattern => recordPattern rec
  | .block => block rec
  | .statement => statement rec
  | .classBody => classBody rec
  | .interfaceBody => interfaceBody rec
  | .annotationBody => annotationBody rec
  | .enumBody => enumBody rec
  | .switchBlock => switchBlock rec

/-- Reads a goal by rules nested at most `n` deep. -/
def read : Nat → Reader
  | 0 => fun _ => refuse
  | n + 1 => fun goal => produce (read n) goal

/-- Methods may stand outside of classes. -/
def topLevel (rec : Reader) : Grammar := fun src i =>
  let (mods, _) := modifiersAt rec src i
  choice
    [before (seq [mods, opt (seq [typeParameters rec, annotations rec]), plainType rec, identifier, symbol "("])
       (methodDeclaration rec mods),
     rec .statement] src i

/-- A depth that no reading of the text can exceed: rules that read no byte are nested only a few deep. -/
def depth (src : Source) : Nat := 8 * (src.size + 4)

/-- The tree of a file. Where the text stops being Java, an error node takes the rest. -/
def parse (src : Source) : Node :=
  let (ns, j) := manyFrom (topLevel (read (depth src))) src (src.size + 1) [] 0
  let rest := skip src j
  let faults := if rest < src.size then [leaf "ERROR" true rest src.size] else []
  let mark := if matchesBytes src 0 [0xef, 0xbb, 0xbf] then 3 else 0
  .mk ⟨"program", spanEnd isSpace src mark, src.size, true, false, false, none⟩ (ns.reverse ++ faults)

end LogReview.Java
