import Mathlib.Data.List.Infix
import SchemaWire.Codegen.File
import SchemaWire.Proofs.Codegen.Names
import SchemaWire.Proofs.Text.Lines

/-!
The lines of a generated file. Nothing that is put into a line holds a newline, and no line but
those that are meant to gives a type id.
-/
namespace SchemaWire.Codegen

open Text (OneLine oneLine_append)

/-- The line that tells the id of a type. -/
def idLine (id : Nat) : String := "    const TYPE_ID: u16 = " ++ toString id ++ ";"

/-- The line that decodes a frame with the given id as a type. -/
def armLine (id : Nat) (name : String) : String :=
  "        " ++ toString id ++ " => Ok(AnyMessage::" ++ name ++ "(" ++ name ++
    "::decode(payload)?)),"

structure Silent (line : String) : Prop where
  oneLine : OneLine line
  not_id : ∀ id, line ≠ idLine id
  not_arm : ∀ id name, line ≠ armLine id name

/-! Texts that are written out are checked as lists of characters. -/

def Fixed (P : List Char → Prop) (s : String) : Prop := P s.toList

theorem fixed_ofList {P : List Char → Prop} {cs : List Char} (h : P cs) :
    Fixed P (String.ofList cs) := by
  rwa [Fixed, String.toList_ofList]

/-! How lines that give type ids start. -/

def digits : List Char := ['0', '1', '2', '3', '4', '5', '6', '7', '8', '9']

def idFront : List Char := [' ', ' ', ' ', ' ', 'c', 'o', 'n', 's', 't', ' ', 'T']

def armFront (digit : Char) : List Char := [' ', ' ', ' ', ' ', ' ', ' ', ' ', ' ', digit]

def telling : List (List Char) := idFront :: digits.map armFront

theorem mem_digits {c : Char} (digit : c.isDigit = true) : c ∈ digits := by
  have table : ∀ n : Fin 128, (Char.ofNat n).isDigit = true → Char.ofNat n ∈ digits := by
    decide +kernel
  have bounds : '0' ≤ c ∧ c ≤ '9' :=
    (Bool.and_eq_true_iff.trans (and_congr decide_eq_true_iff decide_eq_true_iff)).mp digit
  obtain ⟨n, rfl, -⟩ := NameChar.exists_index (.inr bounds)
  exact table n digit

theorem prefix_idLine (id : Nat) : idFront <+: (idLine id).toList := by
  have front : Fixed (idFront <+: ·) "    const TYPE_ID: u16 = " := fixed_ofList (by decide)
  unfold idLine
  simp only [String.append_assoc, String.toList_append]
  exact List.IsPrefix.trans front (List.prefix_append ..)

theorem prefix_armLine (id : Nat) (name : String) :
    ∃ digit ∈ digits, armFront digit <+: (armLine id name).toList := by
  cases shape : Nat.toDigits 10 id with
  | nil => exact absurd shape Nat.toDigits_ne_nil
  | cons digit rest =>
      have member : digit ∈ Nat.toDigits 10 id := by simp [shape]
      refine ⟨digit, mem_digits (Nat.isDigit_of_mem_toDigits (by decide) (by decide) member), ?_⟩
      unfold armLine
      simp [armFront, shape]

/-- A line that gives no type id. -/
def Lone (line : List Char) : Prop := '\n' ∉ line ∧ ∀ start ∈ telling, ¬ start <+: line

instance (line : List Char) : Decidable (Lone line) := inferInstanceAs (Decidable (_ ∧ _))

/-- A front that settles that a line gives no type id, whatever follows. -/
def Decisive (front : List Char) : Prop :=
  '\n' ∉ front ∧ ∀ start ∈ telling, ¬ start <+: front ∧ ¬ front <+: start

instance (front : List Char) : Decidable (Decisive front) := inferInstanceAs (Decidable (_ ∧ _))

def Lettered (word : List Char) : Prop := word.head?.any Char.isAlpha = true

instance (word : List Char) : Decidable (Lettered word) := inferInstanceAs (Decidable (_ = _))

@[simp] theorem oneLine_fixed {line : String} (fixed : Fixed ('\n' ∉ ·) line) : OneLine line :=
  fixed

@[simp] theorem silent_fixed {line : String} (fixed : Fixed Lone line) : Silent line := by
  refine ⟨fixed.1, ?_, ?_⟩
  · rintro id rfl
    exact fixed.2 idFront (List.mem_cons_self ..) (prefix_idLine id)
  · rintro id name rfl
    obtain ⟨digit, member, front⟩ := prefix_armLine id name
    exact fixed.2 _ (List.mem_cons_of_mem _ (List.mem_map_of_mem member)) front

@[simp] theorem silent_append {front rest : String} (fixed : Fixed Decisive front) :
    Silent (front ++ rest) ↔ OneLine rest := by
  refine ⟨fun silent => (oneLine_append.mp silent.oneLine).2, fun behind => ?_⟩
  apply silent_fixed
  refine ⟨oneLine_append.mpr ⟨fixed.1, behind⟩, ?_⟩
  intro start member
  rw [String.toList_append]
  intro front
  rcases List.prefix_or_prefix_of_prefix front (List.prefix_append _ _) with shorter | longer
  · exact (fixed.2 start member).1 shorter
  · exact (fixed.2 start member).2 longer

theorem lettered_append {word rest : String} (fixed : Fixed Lettered word) :
    Fixed Lettered (word ++ rest) := by
  simp only [Fixed, Lettered, String.toList_append] at *
  cases shape : word.toList with
  | nil => simp [shape] at fixed
  | cons c cs => simpa [shape] using fixed

theorem silent_indented {word : String} (fixed : Fixed Lettered word) :
    Silent ("        " ++ word) ↔ OneLine word := by
  refine ⟨fun silent => (oneLine_append.mp silent.oneLine).2, fun inside => ?_⟩
  have blank : OneLine "        " := oneLine_fixed (fixed_ofList (by decide))
  have spaces : ("        " ++ word).toList = List.replicate 8 ' ' ++ word.toList := by simp
  have letterless : digits.all (!·.isAlpha) = true := by decide
  apply silent_fixed
  refine ⟨oneLine_append.mpr ⟨blank, inside⟩, ?_⟩
  simp only [Fixed, Lettered] at fixed
  simp only [spaces, telling, List.forall_mem_cons, List.forall_mem_map]
  cases shape : word.toList with
  | nil => simp [shape] at fixed
  | cons c cs =>
      simp only [shape, List.head?_cons, Option.any_some] at fixed
      refine ⟨by simp [idFront, List.replicate], ?_⟩
      intro digit member front
      have same : digit = c := by simpa [armFront, List.replicate] using front
      have letterless := List.all_eq_true.mp letterless digit member
      rw [same, fixed] at letterless
      cases letterless

/-- A struct expression opens with the name of a type. That may start with a digit, but the line
does not end as the lines that start so. -/
theorem silent_opening {name : String} (worded : Worded name) :
    Silent ("        " ++ (name ++ " \x7b")) := by
  refine ⟨?_, ?_, ?_⟩
  · simp (disch := (with_reducible apply fixed_ofList; decide)) only [oneLine_append,
      worded.oneLine, oneLine_fixed, and_self]
  · intro id same
    have front := prefix_idLine id
    rw [← same] at front
    simp [idFront] at front
  · intro id name' same
    have ending : Fixed (·.getLast? = some ',') "::decode(payload)?))," := fixed_ofList (by decide)
    have last : (armLine id name').toList.getLast? = some ',' := by
      unfold armLine
      simp only [String.toList_append, List.getLast?_append]
      rw [ending, Option.some_or]
    have brace : Fixed (·.getLast? = some '\x7b') " \x7b" := fixed_ofList (by decide)
    rw [← same, String.toList_append, String.toList_append, List.getLast?_append,
      List.getLast?_append, brace] at last
    cases last

theorem silent_variant {name : String} (worded : Worded name) :
    Silent ("    " ++ (name ++ ("(" ++ (name ++ "),")))) := by
  have clear := worded.not_mem (show isIdentChar ' ' = false by decide)
  have spaced : ∀ start ∈ telling, ' ' ∈ start.drop 4 := by decide
  apply silent_fixed
  refine ⟨?_, ?_⟩
  · have inside := worded.oneLine
    simpa [OneLine] using inside
  · intro start member front
    have found := (front.drop 4).subset (spaced start member)
    simp [clear] at found

/-! Texts that are put together from fixed ones, generated names and numbers. -/

theorem oneLine_typeName {name : String} (h : Identifier name) : OneLine (typeName name) :=
  (worded_typeName h).oneLine

theorem oneLine_fieldName {f : FieldDecl} (h : Identifier f.name) : OneLine (fieldName f) :=
  (worded_fieldName h).oneLine

@[simp] theorem oneLine_scalar (t : ScalarType) : OneLine t.name :=
  (PrimitiveType.scalar t).identifier_name.worded.oneLine

@[simp] theorem oneLine_repr (n : Nat) : OneLine n.repr := by
  rw [OneLine, Nat.toList_repr]
  intro member
  have digit := Nat.isDigit_of_mem_toDigits (by decide) (by decide) member
  revert digit
  decide

theorem oneLine_intercalate {glue : String} (between : OneLine glue) {pieces : List String}
    (each : ∀ piece ∈ pieces, OneLine piece) : OneLine (glue.intercalate pieces) := by
  rw [OneLine, String.toList_intercalate]
  induction pieces with
  | nil => exact List.not_mem_nil
  | cons piece rest ih =>
      obtain ⟨here, others⟩ := List.forall_mem_cons.mp each
      cases rest with
      | nil =>
          rw [List.map_cons, List.map_nil, List.intercalate_singleton]
          exact here
      | cons next rest =>
          have later := ih others
          rw [List.map_cons] at later ⊢
          rw [List.map_cons, List.intercalate_cons_cons, List.mem_append, List.mem_append, not_or,
            not_or]
          exact ⟨⟨here, between⟩, later⟩

theorem oneLine_formName {name : String} (h : Identifier name) (form : Form) :
    OneLine (formName name form) :=
  (worded_formName h form).oneLine

/-- All names in a declaration are identifiers. -/
def SpelledType (type : TypeExpr) : Prop := ∀ name, type.Names name → Identifier name

structure SpelledField (f : FieldDecl) : Prop where
  name : Identifier f.name
  type : SpelledType f.type

structure SpelledStruct (s : StructDecl) : Prop where
  name : Identifier s.name
  fields : ∀ f ∈ s.fields, SpelledField f

theorem oneLine_formType (borrowing : List String) (form : Form) {type : TypeExpr}
    (h : SpelledType type) : OneLine (formType borrowing form type) := by
  induction type with
  | primitive p =>
      unfold formType
      cases p with
      | scalar t => exact oneLine_scalar t
      | text => cases form <;> exact oneLine_fixed (fixed_ofList (by decide))
  | named name =>
      have spelled := oneLine_formName (h name (.named name)) form
      unfold formType
      split <;> simp (disch := (with_reducible apply fixed_ofList; decide)) [spelled]
  | array element ih =>
      have inner := ih fun name names => h name (.array names)
      unfold formType
      cases fixed? element <;> cases form <;>
        simp (disch := (with_reducible apply fixed_ofList; decide)) [inner]

theorem oneLine_fieldType (borrowing : List String) (form : Form) {f : FieldDecl}
    (h : SpelledField f) : OneLine (fieldType borrowing form f) := by
  have inner := oneLine_formType borrowing form h.type
  unfold fieldType
  split <;> simp (disch := (with_reducible apply fixed_ofList; decide)) [inner]

/-- The place of an element in the expressions for arrays. -/
theorem oneLine_v : OneLine "v" := oneLine_fixed (fixed_ofList (by decide))

section Expressions

variable {place : String} (h : OneLine place) (type : TypeExpr)
include h

theorem oneLine_sizeExpr : OneLine (sizeExpr place type) := by
  induction type generalizing place with
  | primitive p =>
      unfold sizeExpr
      cases p <;> simp (disch := (with_reducible apply fixed_ofList; decide)) [h]
  | named name =>
      unfold sizeExpr
      simp (disch := (with_reducible apply fixed_ofList; decide)) [h]
  | array element ih =>
      unfold sizeExpr
      cases fixed? element <;>
        simp (disch := (with_reducible apply fixed_ofList; decide)) [h, ih oneLine_v]

theorem oneLine_encodeExpr (byRef : Bool) : OneLine (encodeExpr place byRef type) := by
  induction type generalizing place byRef with
  | primitive p =>
      unfold encodeExpr
      cases p <;> cases byRef <;> simp (disch := (with_reducible apply fixed_ofList; decide)) [h]
  | named name =>
      unfold encodeExpr
      simp (disch := (with_reducible apply fixed_ofList; decide)) [h]
  | array element ih =>
      unfold encodeExpr
      cases fixed? element <;> cases byRef <;>
        simp (disch := (with_reducible apply fixed_ofList; decide)) [h, ih oneLine_v true]

theorem oneLine_toOwnedExpr : OneLine (toOwnedExpr place type) := by
  induction type generalizing place with
  | primitive p =>
      unfold toOwnedExpr
      cases p <;> simp (disch := (with_reducible apply fixed_ofList; decide)) [h]
  | named name =>
      unfold toOwnedExpr
      simp (disch := (with_reducible apply fixed_ofList; decide)) [h]
  | array element ih =>
      unfold toOwnedExpr
      cases fixed? element <;>
        simp (disch := (with_reducible apply fixed_ofList; decide)) [h, ih oneLine_v]

end Expressions

theorem oneLine_decodeExpr (form : Form) {type : TypeExpr} (h : SpelledType type) :
    OneLine (decodeExpr form type) := by
  induction type with
  | primitive p =>
      unfold decodeExpr
      cases p <;> cases form <;> simp (disch := (with_reducible apply fixed_ofList; decide))
  | named name =>
      have spelled := oneLine_formName (h name (.named name))
      unfold decodeExpr
      cases form <;> simp (disch := (with_reducible apply fixed_ofList; decide)) [spelled]
  | array element ih =>
      have inner := ih fun name names => h name (.array names)
      unfold decodeExpr
      cases fixed? element <;> cases form <;>
        simp (disch := (with_reducible apply fixed_ofList; decide)) [inner]

section Fields

variable {f : FieldDecl} (h : SpelledField f)
include h

theorem oneLine_selfField : OneLine (selfField f) := by
  unfold selfField
  simp (disch := (with_reducible apply fixed_ofList; decide)) [oneLine_fieldName h.name]

theorem oneLine_fieldSizeExpr : OneLine (fieldSizeExpr f) := by
  have place := oneLine_selfField h
  unfold fieldSizeExpr
  split <;>
    simp (disch := (with_reducible apply fixed_ofList; decide))
      [place, oneLine_sizeExpr oneLine_v, oneLine_sizeExpr place]

theorem oneLine_fieldEncodeExpr : OneLine (fieldEncodeExpr f) := by
  have place := oneLine_selfField h
  unfold fieldEncodeExpr
  split <;>
    simp (disch := (with_reducible apply fixed_ofList; decide))
      [place, oneLine_encodeExpr oneLine_v, oneLine_encodeExpr place]

theorem oneLine_fieldDecodeExpr (form : Form) : OneLine (fieldDecodeExpr form f) := by
  unfold fieldDecodeExpr
  split <;>
    simp (disch := (with_reducible apply fixed_ofList; decide)) [oneLine_decodeExpr form h.type]

theorem oneLine_fieldToOwnedExpr : OneLine (fieldToOwnedExpr f) := by
  have place := oneLine_selfField h
  unfold fieldToOwnedExpr
  split <;>
    simp (disch := (with_reducible apply fixed_ofList; decide))
      [place, oneLine_toOwnedExpr oneLine_v, oneLine_toOwnedExpr place]

theorem oneLine_recordSizeTerm (borrowing : List String) :
    OneLine (recordSizeTerm borrowing f) := by
  unfold recordSizeTerm
  cases fixed? f.type <;>
    simp (disch := (with_reducible apply fixed_ofList; decide))
      [oneLine_fieldType borrowing .stored h]

end Fields

/-! What is encoded starts with a letter. -/

theorem lettered_encodeExpr {place : String} (h : Fixed Lettered place) (byRef : Bool)
    (type : TypeExpr) : Fixed Lettered (encodeExpr place byRef type) := by
  unfold encodeExpr
  cases type with
  | primitive p =>
      cases p <;>
        simp (disch := (with_reducible apply fixed_ofList; decide)) only [String.append_assoc,
          lettered_append]
  | named name => exact lettered_append h
  | array element =>
      dsimp only
      cases fixed? element <;>
        simp (disch := (with_reducible apply fixed_ofList; decide)) only [String.append_assoc,
          lettered_append]

theorem lettered_selfField (f : FieldDecl) : Fixed Lettered (selfField f) :=
  lettered_append (fixed_ofList (by decide))

theorem lettered_fieldEncodeExpr (f : FieldDecl) : Fixed Lettered (fieldEncodeExpr f) := by
  unfold fieldEncodeExpr
  split
  · simp (disch := (with_reducible apply fixed_ofList; decide))
    only [String.append_assoc, lettered_append]
  · exact lettered_encodeExpr (lettered_selfField f) false f.type

/-! The lines of each part. -/

set_option maxRecDepth 2000 in
theorem silent_header {path : String} (h : OneLine path) (d : Document) :
    ∀ line ∈ header path d, Silent line := by
  unfold header
  simp (disch := (with_reducible apply fixed_ofList; decide)) [String.append_assoc, h]

theorem silent_docLines {indent : String} (known : indent = "" ∨ indent = "    ")
    (doc : Option String) : ∀ line ∈ docLines indent doc, Silent line := by
  unfold docLines
  cases doc with
  | none => exact List.forall_mem_nil _
  | some text =>
      rw [List.forall_mem_map]
      intro line member
      have inside := Text.oneLine_of_mem_lines member
      rcases known with rfl | rfl
      · split <;> simp (disch := (with_reducible apply fixed_ofList; decide)) [inside]
      · have bare : "    " ++ "///" = "    ///" := rfl
        have spaced : "    " ++ "/// " = "    /// " := rfl
        rw [bare, spaced]
        split <;> simp (disch := (with_reducible apply fixed_ofList; decide)) [inside]

theorem silent_fieldLines (borrowing : List String) (form : Form) (documented : Bool)
    {f : FieldDecl} (h : SpelledField f) :
    ∀ line ∈ fieldLines borrowing form documented f, Silent line := by
  unfold fieldLines
  rw [List.forall_mem_append, List.forall_mem_singleton]
  constructor
  · split
    · exact silent_docLines (.inr rfl) f.doc
    · exact List.forall_mem_nil _
  · simp (disch := (with_reducible apply fixed_ofList; decide))
    [String.append_assoc, oneLine_fieldName h.name, oneLine_fieldType borrowing form h]

theorem oneLine_lifetime (borrowing : List String) (s : StructDecl) :
    OneLine (lifetime borrowing s) := by
  unfold lifetime
  split <;> exact oneLine_fixed (fixed_ofList (by decide))

theorem silent_writeRecordLine {f : FieldDecl} (h : SpelledField f) :
    Silent (writeRecordLine f) := by
  have place := oneLine_selfField h
  unfold writeRecordLine
  split
  · rw [String.append_assoc,
      silent_indented (lettered_append (lettered_encodeExpr (lettered_selfField f) false f.type))]
    simp (disch := (with_reducible apply fixed_ofList; decide)) [oneLine_encodeExpr place]
  · rw [String.append_assoc, silent_indented (lettered_append (lettered_selfField f))]
    simp (disch := (with_reducible apply fixed_ofList; decide)) [place]

theorem silent_readRecordLine (borrowing : List String) {f : FieldDecl} (h : SpelledField f) :
    Silent (readRecordLine borrowing f) := by
  unfold readRecordLine
  cases fixed? f.type <;>
    simp (disch := (with_reducible apply fixed_ofList; decide))
      [String.append_assoc, oneLine_fieldName h.name, oneLine_fieldType borrowing .stored h,
      oneLine_decodeExpr .stored h.type]

section Parts

variable (borrowing : List String) {s : StructDecl} (h : SpelledStruct s)
include h

theorem silent_types : ∀ line ∈ types borrowing s, Silent line := by
  have fields (form : Form) (documented : Bool) :
      ∀ line ∈ s.fields.flatMap (fieldLines borrowing form documented), Silent line := by
    rw [List.forall_mem_flatMap]
    exact fun f member => silent_fieldLines borrowing form documented (h.fields f member)
  unfold types opening
  simp only [List.forall_mem_append]
  refine ⟨⟨⟨⟨⟨⟨⟨silent_docLines (.inl rfl) s.doc, ?_⟩, fields .owned true⟩, ?_⟩,
    fields .borrowed false⟩, ?_⟩, fields .stored false⟩, ?_⟩ <;>
    simp (disch := (with_reducible apply fixed_ofList; decide))
      [String.append_assoc, oneLine_lifetime, oneLine_typeName h.name]

theorem silent_structLiteral {name : String} (named : OneLine name) (form : Form) :
    ∀ line ∈ structLiteral name form s, Silent line := by
  have fields : ∀ f ∈ s.fields, OneLine (fieldName f) ∧ OneLine (fieldDecodeExpr form f) :=
    fun f member => ⟨oneLine_fieldName (h.fields f member).name,
      oneLine_fieldDecodeExpr (h.fields f member) form⟩
  unfold structLiteral opening
  simpa (disch := (with_reducible apply fixed_ofList; decide))
    [String.append_assoc, or_imp, forall_and, named] using fields

theorem silent_sizeCalculator : ∀ line ∈ sizeCalculator s, Silent line := by
  have fields : ∀ f ∈ s.fields, OneLine (fieldSizeExpr f) :=
    fun f member => oneLine_fieldSizeExpr (h.fields f member)
  unfold sizeCalculator opening
  simpa (disch := (with_reducible apply fixed_ofList; decide))
    [String.append_assoc, or_imp, forall_and] using fields

theorem silent_encoder : ∀ line ∈ encoder s, Silent line := by
  have fields : ∀ f ∈ s.fields, Silent ("        " ++ (fieldEncodeExpr f ++ ";")) := by
    intro f member
    rw [silent_indented (lettered_append (lettered_fieldEncodeExpr f))]
    simp (disch := (with_reducible apply fixed_ofList; decide))
      [oneLine_fieldEncodeExpr (h.fields f member)]
  unfold encoder opening
  simpa (disch := (with_reducible apply fixed_ofList; decide))
    [String.append_assoc, or_imp, forall_and] using fields

theorem silent_decoder : ∀ line ∈ decoder s, Silent line := by
  have named := oneLine_typeName h.name
  have body := silent_structLiteral h named .owned
  unfold decoder opening
  simpa (disch := (with_reducible apply fixed_ofList; decide))
    [String.append_assoc, or_imp, forall_and, named] using body

theorem silent_borrowedDecoder : ∀ line ∈ borrowedDecoder borrowing s, Silent line := by
  have named := oneLine_typeName h.name
  have body : ∀ line ∈ structLiteral (typeName s.name ++ "Ref") .borrowed s, Silent line :=
    silent_structLiteral h (by simp (disch := (with_reducible apply fixed_ofList; decide))
      [named]) .borrowed
  have fields : ∀ f ∈ s.fields, OneLine (fieldName f) ∧ OneLine (fieldToOwnedExpr f) :=
    fun f member => ⟨oneLine_fieldName (h.fields f member).name,
      oneLine_fieldToOwnedExpr (h.fields f member)⟩
  have owned := silent_opening (worded_typeName h.name)
  unfold borrowedDecoder opening
  simpa (disch := (with_reducible apply fixed_ofList; decide))
    [String.append_assoc, or_imp, forall_and, named, oneLine_lifetime]
    using ⟨body, owned, forall₂_and.mp fields⟩

theorem silent_arenaDecoder : ∀ line ∈ arenaDecoder borrowing s, Silent line := by
  have named := oneLine_typeName h.name
  have body : ∀ line ∈ structLiteral (typeName s.name ++ "In") .stored s, Silent line :=
    silent_structLiteral h (by simp (disch := (with_reducible apply fixed_ofList; decide))
      [named]) .stored
  have sizes : OneLine (" + ".intercalate (s.fields.map (recordSizeTerm borrowing))) := by
    apply oneLine_intercalate (oneLine_fixed (fixed_ofList (by decide)))
    rw [List.forall_mem_map]
    exact fun f member => oneLine_recordSizeTerm (h.fields f member) borrowing
  have writes : ∀ f ∈ s.fields, Silent (writeRecordLine f) :=
    fun f member => silent_writeRecordLine (h.fields f member)
  have reads : ∀ f ∈ s.fields, Silent (readRecordLine borrowing f) :=
    fun f member => silent_readRecordLine borrowing (h.fields f member)
  unfold arenaDecoder opening
  simpa (disch := (with_reducible apply fixed_ofList; decide))
    [String.append_assoc, or_imp, forall_and, named]
    using ⟨body, sizes, writes, reads⟩

end Parts

end SchemaWire.Codegen
