import RecordMapping.Proofs.Annotations

/-!
What is wrong with an item.

Whatever reads an item stops at the first thing that is wrong with it.  So a derivation is told by
two things that are read off the item without stopping: the list of all that is wrong with it, in
the order of reading, and the outline of what it declares.  With nothing on the list the outline is
derived, else the first error is reported.
-/

namespace RecordMapping
namespace Derive

/-! ## Readings that stop at the first fault -/

/-- What is read, unless something is wrong with it. -/
def unlessFaulty {ε α : Type} (faults : List ε) (a : α) : Except ε α :=
  match faults with
  | [] => .ok a
  | e :: _ => .error e

section

variable {ε α β σ : Type}

theorem unlessFaulty_eq_ok_iff {faults : List ε} {a b : α} :
    unlessFaulty faults a = .ok b ↔ faults = [] ∧ b = a := by
  cases faults with
  | nil => simp [unlessFaulty, eq_comm]
  | cons e faults => simp [unlessFaulty]

theorem unlessFaulty_eq_error_iff {faults : List ε} {a : α} {e : ε} :
    unlessFaulty faults a = .error e ↔ faults.head? = some e := by
  cases faults with
  | nil => simp [unlessFaulty]
  | cons e faults => simp [unlessFaulty]

/-- What is wrong with the first part of a reading comes before what is wrong with the second. -/
theorem unlessFaulty_bind {first second : List ε} {a : α} {b : β} {f : α → Except ε β}
    (h : f a = unlessFaulty second b) :
    unlessFaulty first a >>= f = unlessFaulty (first ++ second) b := by
  cases first with
  | nil => exact h
  | cons e first => rfl

theorem map_unlessFaulty {faults : List ε} {a : α} (f : α → β) :
    (do return f (← unlessFaulty faults a)) = unlessFaulty faults (f a) := by
  cases faults with
  | nil => rfl
  | cons e faults => rfl

variable {wrong : α → List ε}

theorem foldlM_eq_unlessFaulty {f : σ → α → Except ε σ} {next : σ → α → σ}
    (h : ∀ s a, f s a = unlessFaulty (wrong a) (next s a)) (s : σ) (as : List α) :
    as.foldlM f s = unlessFaulty (as.flatMap wrong) (as.foldl next s) := by
  induction as generalizing s with
  | nil => rfl
  | cons a as ih =>
    rw [List.foldlM_cons, h, List.flatMap_cons, List.foldl_cons]
    exact unlessFaulty_bind (ih (next s a))

theorem mapM_eq_unlessFaulty {f : α → Except ε β} {g : α → β}
    (h : ∀ a, f a = unlessFaulty (wrong a) (g a)) (as : List α) :
    as.mapM f = unlessFaulty (as.flatMap wrong) (as.map g) := by
  induction as with
  | nil => rfl
  | cons a as ih =>
    rw [List.mapM_cons, h, List.flatMap_cons, List.map_cons, ih]
    exact unlessFaulty_bind (map_unlessFaulty (g a :: ·))

end

/-! ## Arguments -/

/-- What is wrong with arguments, given what is wrong with one that is the last or not.  Behind a
comma at the end there is none. -/
def argumentFaults (wrong : Bool → List Token → List DeriveError) :
    List (List Token) → List DeriveError
  | [] => []
  | [[]] => []
  | code :: rest => wrong rest.isEmpty code ++ argumentFaults wrong rest

theorem argumentFaults_cons (wrong : Bool → List Token → List DeriveError) {code : List Token}
    {rest : List (List Token)} (h : code :: rest ≠ [[]]) :
    argumentFaults wrong (code :: rest) = wrong rest.isEmpty code ++ argumentFaults wrong rest :=
  argumentFaults.eq_3 wrong code rest (by simpa using h)

section

variable {σ : Type} {take : σ → Argument → Except DeriveError (σ × List Token)}

/-- Takes one argument with nothing left behind it. -/
def takeWhole (take : σ → Argument → Except DeriveError (σ × List Token)) (s : σ) (isLast : Bool)
    (code : List Token) : Except DeriveError σ := do
  let (s, left) ← take s (← Argument.read isLast code)
  if left.isEmpty then return s else throw .noComma

theorem foldArguments_cons (s : σ) {code : List Token} {rest : List (List Token)}
    (h : code :: rest ≠ [[]]) :
    foldArguments take s (code :: rest) =
      takeWhole take s rest.isEmpty code >>= (foldArguments take · rest) := by
  rw [foldArguments.eq_3 take s code rest (by simpa using h), takeWhole]
  cases Argument.read rest.isEmpty code with
  | error e => rfl
  | ok a =>
    show (take s a >>= _) = (take s a >>= _) >>= _
    cases take s a with
    | error e => rfl
    | ok taken =>
      obtain ⟨s', left⟩ := taken
      cases left with
      | nil => rfl
      | cons t left => rfl

/-- Arguments are read one by one if each of them is.  The empty one behind a last comma is not
read, so that nothing may come of it. -/
theorem foldArguments_eq_unlessFaulty {wrong : Bool → List Token → List DeriveError}
    {next : σ → List Token → σ}
    (h : ∀ s isLast code,
      takeWhole take s isLast code = unlessFaulty (wrong isLast code) (next s code))
    (hnone : ∀ s, next s [] = s) (s : σ) (arguments : List (List Token)) :
    foldArguments take s arguments =
      unlessFaulty (argumentFaults wrong arguments) (arguments.foldl next s) := by
  induction arguments generalizing s with
  | nil => rfl
  | cons code rest ih =>
    by_cases hcomma : code :: rest = [[]]
    · rw [hcomma]
      show Except.ok s = Except.ok (next s [])
      rw [hnone]
    · rw [foldArguments_cons s hcomma, h, argumentFaults_cons wrong hcomma]
      exact unlessFaulty_bind (ih (next s code))

end

/-! ## What is wrong with an argument -/

/-- What is left of an argument is superfluous. -/
def endFaults (left : List Token) : List DeriveError := if left.isEmpty then [] else [.noComma]

/-- What is wrong with an argument without a path, or else with the argument that is read. -/
def readFaults (wrong : Argument → List DeriveError) (isLast : Bool) (code : List Token) :
    List DeriveError :=
  match Argument.read isLast code with
  | .error e => [e]
  | .ok a => wrong a

/-- What is wrong with an argument for a field. -/
def Argument.fieldFaults (a : Argument) : List DeriveError :=
  if a.name? = some "embed" then endFaults a.code else [.fieldArgument]

/-- What is wrong with what follows the name of an argument for the table's name. -/
def tableFaults (isLast : Bool) : List Token → List DeriveError
  | .sign '=' :: .text _ :: rest => endFaults rest
  | [.sign '='] => [if isLast then .atEnd .tableLiteral else .tableLiteral]
  | .sign '=' :: _ => [.tableLiteral]
  | _ => [.noEquals]

/-- What is wrong with an argument for an item. -/
def Argument.itemFaults (a : Argument) : List DeriveError :=
  if a.name? = some "table" then tableFaults a.isLast a.code
  else if a.name? = some "table_name" then endFaults a.code
  else [.itemArgument]

/-- The mark of an embedded field. -/
def embedMark : List Token := [.name "embed"]

/-- Where an argument has the table's name come from. -/
def tableSource? : List Token → Option TableSource
  | [.name "table", .sign '=', .text name] => some (.literal name)
  | [.name "table_name"] => some .capability
  | _ => none

/-- Only a path of one segment has a name. -/
theorem Argument.code_of_read {isLast : Bool} {code : List Token} {a : Argument} {name : String}
    (h : Argument.read isLast code = .ok a) (hname : a.name? = some name) :
    code = .name name :: a.code := by
  unfold Argument.read at h
  split at h
  · obtain ⟨rest, -, ha⟩ := exists_of_bind_eq_ok h
    cases ha
    cases hname
  · cases h
    cases hname
    rfl
  · obtain ⟨rest, -, ha⟩ := exists_of_bind_eq_ok h
    cases ha
    cases hname
  · cases h
  · cases h

/-! ## Arguments, one by one -/

/-- One argument is read as a whole if that is so behind its path. -/
theorem takeWhole_eq_unlessFaulty {σ : Type}
    {take : σ → Argument → Except DeriveError (σ × List Token)}
    {wrong : Argument → List DeriveError} {s s' : σ} {isLast : Bool} {code : List Token}
    (h : ∀ a, Argument.read isLast code = .ok a →
      (take s a >>= fun taken => if taken.2.isEmpty then .ok taken.1 else .error .noComma) =
        unlessFaulty (wrong a) s') :
    takeWhole take s isLast code = unlessFaulty (readFaults wrong isLast code) s' := by
  unfold takeWhole readFaults
  cases hread : Argument.read isLast code with
  | error e => rfl
  | ok a => exact h a hread

theorem takeWhole_takeFieldArgument (anonymous isLast : Bool) (code : List Token) :
    takeWhole takeFieldArgument anonymous isLast code =
      unlessFaulty (readFaults Argument.fieldFaults isLast code)
        (anonymous || code == embedMark) := by
  refine takeWhole_eq_unlessFaulty fun a hread => ?_
  unfold takeFieldArgument Argument.fieldFaults
  by_cases hname : a.name? = some "embed"
  · rw [if_pos hname, if_pos hname, Argument.code_of_read hread hname]
    cases a.code with
    | nil => cases anonymous <;> rfl
    | cons t left => rfl
  · rw [if_neg hname, if_neg hname]
    rfl

theorem takeWhole_takeItemArgument (t : TableSource) (isLast : Bool) (code : List Token) :
    takeWhole takeItemArgument t isLast code =
      unlessFaulty (readFaults Argument.itemFaults isLast code) ((tableSource? code).getD t) := by
  refine takeWhole_eq_unlessFaulty fun a hread => ?_
  have hcode {name : String} (hname : a.name? = some name) : code = .name name :: a.code :=
    Argument.code_of_read hread hname
  obtain ⟨name?, left, isLast'⟩ := a
  unfold takeItemArgument Argument.itemFaults
  by_cases htable : name? = some "table"
  · rw [if_pos htable, if_pos htable, hcode htable]
    dsimp only
    split
    · next name rest =>
      cases rest with
      | nil => rfl
      | cons t left => rfl
    · rfl
    · next rest htext hend =>
      rw [tableFaults.eq_3 _ rest htext hend]
      rfl
    · next htext hend hequals =>
      rw [tableFaults.eq_4 _ left htext hend hequals]
      rfl
  · rw [if_neg htable, if_neg htable]
    by_cases hname : name? = some "table_name"
    · rw [if_pos hname, if_pos hname, hcode hname]
      cases left with
      | nil => rfl
      | cons t left => rfl
    · rw [if_neg hname, if_neg hname]
      rfl

/-! ## Attributes of a field -/

/-- The arguments that an attribute of the mapping has. -/
def Attribute.arguments (a : Attribute) : List (List Token) :=
  if a.path = [.name mappingPath] then
    match a.form with
    | .list arguments => arguments
    | _ => []
  else []

/-- What is wrong with the text of an annotation. -/
def textFaults : List Token → List DeriveError
  | [.text _] => []
  | _ => [.annotationLiteral]

/-- What is wrong with an attribute of a field. -/
def Attribute.fieldFaults (a : Attribute) : List DeriveError :=
  if a.path = [.name sqlPath] then
    match a.form with
    | .word => [.noValue sqlPath]
    | .list _ => [.noEquals]
    | .value code => textFaults code
  else if a.path = [.name mappingPath] then
    match a.form with
    | .word => [.fieldForm]
    | .list arguments => argumentFaults (readFaults Argument.fieldFaults) arguments
    | .value code => textFaults code
  else []

/-- The notes with what an attribute says. -/
def Notes.add (n : Notes) (a : Attribute) : Notes where
  sql := n.sql ++ (a.text? sqlPath).toList
  mapping := n.mapping ++ (a.text? mappingPath).toList
  anonymous := a.arguments.foldl (fun anonymous code => anonymous || code == embedMark) n.anonymous

theorem noteText_eq_unlessFaulty {note : String → Notes} {code : List Token} {n : Notes}
    (h : ∀ text, code = [.text text] → note text = n) :
    (do return note (← annotationText code)) = unlessFaulty (textFaults code) n := by
  unfold annotationText
  split
  · exact congrArg Except.ok (h _ rfl)
  · next htext =>
    rw [textFaults.eq_2 code htext]
    rfl

theorem noteAttribute_eq_unlessFaulty (n : Notes) (a : Attribute) :
    noteAttribute n a = unlessFaulty a.fieldFaults (n.add a) := by
  have hpaths : ¬ [Token.name sqlPath] = [.name mappingPath] := by decide
  obtain ⟨path, form⟩ := a
  unfold noteAttribute Attribute.fieldFaults
  by_cases hsql : path = [.name sqlPath]
  · subst hsql
    rw [if_pos rfl, if_pos rfl]
    cases form with
    | word => rfl
    | list arguments => rfl
    | value code =>
      refine noteText_eq_unlessFaulty fun text hcode => ?_
      simp [Notes.add, Attribute.text?, Attribute.arguments, hcode, hpaths]
  · rw [if_neg hsql, if_neg hsql]
    by_cases hmapping : path = [.name mappingPath]
    · subst hmapping
      rw [if_pos rfl, if_pos rfl]
      cases form with
      | word => rfl
      | list arguments =>
        dsimp only
        rw [foldArguments_eq_unlessFaulty takeWhole_takeFieldArgument (fun _ => Bool.or_false _),
          map_unlessFaulty]
        simp [Notes.add, Attribute.text?, Attribute.arguments]
      | value code =>
        refine noteText_eq_unlessFaulty fun text hcode => ?_
        simp [Notes.add, Attribute.text?, Attribute.arguments, hcode, Ne.symm hpaths]
    · rw [if_neg hmapping, if_neg hmapping]
      simp [unlessFaulty, Notes.add, Attribute.text?, Attribute.arguments, hsql, hmapping]

/-! ## Fields -/

/-- What is wrong with a field. -/
def FieldItem.faults (f : FieldItem) : List DeriveError :=
  f.attributes.flatMap Attribute.fieldFaults

/-- The arguments of all its attributes of the mapping. -/
def FieldItem.arguments (f : FieldItem) : List (List Token) :=
  f.attributes.flatMap Attribute.arguments

/-- What a field declares.  One mark of an embedded field is enough, in any of its attributes. -/
def FieldItem.outline (f : FieldItem) : FieldDefinition where
  name := plainName (f.name?.getD "")
  type := f.type
  annotation := { sql := joinTexts (f.texts sqlPath), mapping := joinTexts (f.texts mappingPath) }
  exported := f.isExported
  anonymous := embedMark ∈ f.arguments

theorem foldl_embedMark (anonymous : Bool) (arguments : List (List Token)) :
    arguments.foldl (fun anonymous code => anonymous || code == embedMark) anonymous =
      (anonymous || decide (embedMark ∈ arguments)) := by
  induction arguments generalizing anonymous with
  | nil => simp
  | cons code arguments ih =>
    rw [List.foldl_cons, ih]
    simp [Bool.or_assoc, beq_eq_decide, eq_comm]

theorem foldl_add (n : Notes) (attributes : List Attribute) :
    attributes.foldl Notes.add n =
      { sql := n.sql ++ attributes.filterMap (·.text? sqlPath)
        mapping := n.mapping ++ attributes.filterMap (·.text? mappingPath)
        anonymous :=
          n.anonymous || decide (embedMark ∈ attributes.flatMap Attribute.arguments) } := by
  induction attributes generalizing n with
  | nil => simp
  | cons a attributes ih =>
    rw [List.foldl_cons, ih]
    simp [Notes.add, foldl_embedMark, List.filterMap_eq_flatMap_toList, Bool.or_assoc]

theorem FieldItem.define_eq_unlessFaulty (f : FieldItem) :
    f.define = unlessFaulty f.faults f.outline := by
  rw [FieldItem.define, foldlM_eq_unlessFaulty noteAttribute_eq_unlessFaulty, foldl_add,
    map_unlessFaulty]
  simp [FieldItem.outline, FieldItem.faults, FieldItem.texts, FieldItem.arguments]

/-! ## Items -/

/-- What is wrong with an attribute of an item. -/
def Attribute.itemFaults (a : Attribute) : List DeriveError :=
  if a.path = [.name mappingPath] then
    match a.form with
    | .word => [.noArguments]
    | .value _ => [.valueForArguments]
    | .list arguments => argumentFaults (readFaults Argument.itemFaults) arguments
  else []

theorem takeAttribute_eq_unlessFaulty (t : TableSource) (a : Attribute) :
    takeAttribute t a =
      unlessFaulty a.itemFaults
        (a.arguments.foldl (fun t code => (tableSource? code).getD t) t) := by
  unfold takeAttribute Attribute.itemFaults Attribute.arguments
  by_cases hpath : a.path = [.name mappingPath]
  · rw [if_pos hpath, if_pos hpath, if_pos hpath]
    cases a.form with
    | word => rfl
    | value code => rfl
    | list arguments =>
      exact foldArguments_eq_unlessFaulty takeWhole_takeItemArgument (fun _ => rfl) t arguments
  · rw [if_neg hpath, if_neg hpath, if_neg hpath]
    rfl

/-- The last of several arguments counts. -/
theorem foldl_tableSource? (t : TableSource) (arguments : List (List Token)) :
    arguments.foldl (fun t code => (tableSource? code).getD t) t =
      (arguments.filterMap tableSource?).getLast?.getD t := by
  induction arguments generalizing t with
  | nil => rfl
  | cons code arguments ih =>
    rw [List.foldl_cons, ih]
    cases hcode : tableSource? code with
    | none => simp [hcode]
    | some source => simp [hcode, List.getLast?_cons]

/-- What is wrong with the shape of an item. -/
def Shape.faults : Shape → List DeriveError
  | .named | .unit => []
  | .tuple => [.unnamedFields]
  | .enumeration => [.enumeration]
  | .union => [.union]

/-- The fields that an item declares.  Only named ones can be. -/
def Item.declaredFields (i : Item) : List FieldItem := if i.shape = .named then i.fields else []

theorem Item.defineFields_eq_unlessFaulty (i : Item) :
    i.defineFields =
      unlessFaulty (i.shape.faults ++ i.declaredFields.flatMap FieldItem.faults)
        (i.declaredFields.map FieldItem.outline) := by
  unfold Item.defineFields Item.declaredFields
  cases i.shape with
  | named => exact mapM_eq_unlessFaulty FieldItem.define_eq_unlessFaulty i.fields
  | tuple => rfl
  | unit => rfl
  | enumeration => rfl
  | union => rfl

/-- All that is wrong with an item, in the order in which it is found. -/
def Item.faults (i : Item) : List DeriveError :=
  (if i.isGeneric then [.generic] else []) ++ i.shape.faults ++
    i.declaredFields.flatMap FieldItem.faults ++ i.attributes.flatMap Attribute.itemFaults

/-- Where the arguments of an item have the table's name come from. -/
def Item.tableSources (i : Item) : List TableSource :=
  (i.attributes.flatMap Attribute.arguments).filterMap tableSource?

/-- What an item declares: each of its fields in turn, and the table's name from the last place that
is named. -/
def Item.outline (i : Item) : Definition where
  name := i.name
  table := i.tableSources.getLast?.getD .derived
  fields := i.declaredFields.map FieldItem.outline

theorem Item.define_eq_unlessFaulty (i : Item) : i.define = unlessFaulty i.faults i.outline := by
  have htable : i.attributes.foldlM takeAttribute .derived =
      unlessFaulty (i.attributes.flatMap Attribute.itemFaults) i.outline.table := by
    rw [foldlM_eq_unlessFaulty takeAttribute_eq_unlessFaulty, ← List.foldl_flatMap,
      foldl_tableSource?]
    rfl
  unfold Item.define Item.faults
  rw [i.defineFields_eq_unlessFaulty, htable]
  by_cases hgeneric : i.isGeneric
  · rw [if_pos hgeneric, if_pos hgeneric]
    rfl
  · rw [if_neg hgeneric, if_neg hgeneric, List.nil_append]
    exact unlessFaulty_bind (map_unlessFaulty fun table => { i.outline with table })

end Derive
end RecordMapping
