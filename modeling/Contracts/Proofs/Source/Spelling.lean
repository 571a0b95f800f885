import Mathlib.Tactic.Common
import Mathlib.Data.List.Infix
import Contracts.Source.Grammar

/-!
How documents are spelled, apart from any way of reading them.

Each rule tells which stretch of a text, from one cursor to another, spells something. Rules do not
choose: where a part may be left out or a gap may end sooner, there is a spelling for each choice.
That a text has no more than one spelling is a fact about the grammar, and not built into it.
-/

namespace Contracts

/-- The text from one cursor to another. -/
def Cursor.Spells (c : Cursor) (text : List Char) (c' : Cursor) : Prop :=
  c.rest = text ++ c'.rest ∧ c'.offset = c.offset + byteLength text

namespace Spelling

def quotes : List Char := ['"', '"', '"']

/-! ### Tokens -/

/-- Two slashes with all that follows them on the line. -/
inductive Comment : Cursor → Cursor → Prop
  | mk {c c' : Cursor} {text : List Char} (oneLine : '\n' ∉ text)
      (here : c.Spells ('/' :: '/' :: text) c') (lineEnd : ∀ ch ∈ c'.rest.head?, ch = '\n') :
      Comment c c'

/-- Blanks and comments, in any number. -/
inductive Gap : Cursor → Cursor → Prop
  | nothing (c : Cursor) : Gap c c
  | blank {c c₁ c' : Cursor} {ch : Char} (hch : ch = ' ' ∨ ch = '\t' ∨ ch = '\r' ∨ ch = '\n')
      (here : c.Spells [ch] c₁) (more : Gap c₁ c') : Gap c c'
  | comment {c c₁ c' : Cursor} (here : Comment c c₁) (more : Gap c₁ c') : Gap c c'

/-- No word goes on at the cursor. -/
def WordEnd (c : Cursor) : Prop := ∀ ch ∈ c.rest.head?, Token.isIdentChar ch = false

/-- A word that is not the beginning of a longer one. -/
structure Word (word : String) (c c' : Cursor) : Prop where
  here : c.Spells word.toList c'
  whole : WordEnd c'

/-- A name of letters, digits and underscores, which does not start with a digit and is as long as
possible. -/
inductive Ident (name : String) : Cursor → Cursor → Prop
  | mk {c c' : Cursor} {ch : Char} {more : List Char} (hname : name.toList = ch :: more)
      (start : Token.isIdentStart ch = true) (goesOn : ∀ x ∈ more, Token.isIdentChar x = true)
      (here : c.Spells name.toList c') (whole : WordEnd c') : Ident name c c'

/-- What may stand between the quotes of a string: a quote or a backslash only behind a backslash,
and no line feed but there. -/
inductive Quotable : List Char → Prop
  | nil : Quotable []
  | plain {ch : Char} {cs : List Char} (hch : ch ≠ '"' ∧ ch ≠ '\\' ∧ ch ≠ '\n')
      (more : Quotable cs) : Quotable (ch :: cs)
  | escaped (ch : Char) {cs : List Char} (more : Quotable cs) : Quotable ('\\' :: ch :: cs)

/-- A text between two quotes. -/
structure Quoted (text : String) (c c' : Cursor) : Prop where
  quotable : Quotable text.toList
  here : c.Spells ('"' :: text.toList ++ ['"']) c'

/-- A string, which does not begin with three quotes. -/
structure Literal (text : String) (c c' : Cursor) : Prop where
  quoted : Quoted text c c'
  single : ¬ quotes <+: c.rest

/-- A text from three quotes to the next three. -/
structure DocString (text : String) (c c' : Cursor) : Prop where
  first : ¬ quotes <:+: text.toList ++ ['"', '"']
  here : c.Spells (quotes ++ text.toList ++ quotes) c'

/-! ### Bodies -/

/-- A text whose braces are balanced outside of strings, documentation strings and comments. -/
inductive Balanced : Cursor → Cursor → Prop
  | nothing (c : Cursor) : Balanced c c
  | block {c c₁ c₂ c₃ c' : Cursor} (opening : c.Spells ['{'] c₁) (inside : Balanced c₁ c₂)
      (closing : c₂.Spells ['}'] c₃) (more : Balanced c₃ c') : Balanced c c'
  | docString {c c₁ c' : Cursor} {text : String} (here : DocString text c c₁)
      (more : Balanced c₁ c') : Balanced c c'
  | literal {c c₁ c' : Cursor} {text : String} (here : Literal text c c₁)
      (more : Balanced c₁ c') : Balanced c c'
  | comment {c c₁ c' : Cursor} (here : Comment c c₁) (more : Balanced c₁ c') : Balanced c c'
  | character {c c₁ c' : Cursor} {ch : Char} (here : c.Spells [ch] c₁)
      (hch : ch ≠ '{' ∧ ch ≠ '}' ∧ ch ≠ '"') (plain : ¬ ['/', '/'] <+: c.rest)
      (more : Balanced c₁ c') : Balanced c c'

/-- A balanced text between braces. -/
inductive Body : Cursor → Cursor → Prop
  | mk {c c₁ c₂ c' : Cursor} (opening : c.Spells ['{'] c₁) (inside : Balanced c₁ c₂)
      (closing : c₂.Spells ['}'] c') : Body c c'

/-! ### Parts of both kinds of documents -/

/-- The beginning of a line of a header: a word and an equals sign, with the gap behind it. -/
inductive Assigned (word : String) : Cursor → Cursor → Prop
  | mk {c c₁ c₂ c₃ c' : Cursor} (hword : c.Spells word.toList c₁) (gap₁ : Gap c₁ c₂)
      (equals : c₂.Spells ['='] c₃) (gap₂ : Gap c₃ c') : Assigned word c c'

/-- A line of a header: a word, an equals sign and a string. -/
inductive Setting (word text : String) : Cursor → Cursor → Prop
  | mk {c c₁ c' : Cursor} (assigned : Assigned word c c₁) (quoted : Quoted text c₁ c') :
      Setting word text c c'

/-- The title of a definition, with the gap behind its string: the first line that is not blank. -/
inductive Title : Option String → Cursor → Cursor → Prop
  | nothing (c : Cursor) : Title none c c
  | docString {c c₁ c' : Cursor} {text : String} (here : DocString text c c₁) (gap : Gap c₁ c') :
      Title (firstLine? text.toList) c c'
  | literal {c c₁ c' : Cursor} {text : String} (here : Literal text c c₁) (gap : Gap c₁ c') :
      Title (firstLine? text.toList) c c'

/-- Definitions one after the other, with a gap behind each of them. -/
inductive Definitions {α : Type} (definition : α → Cursor → Cursor → Prop) :
    List α → Cursor → Cursor → Prop
  | nil (c : Cursor) : Definitions definition [] c c
  | cons {c c₁ c₂ c' : Cursor} {d : α} {ds : List α} (here : definition d c c₁) (gap : Gap c₁ c₂)
      (more : Definitions definition ds c₂ c') : Definitions definition (d :: ds) c c'

/-! ### Profiles -/

section Profiles

variable (lines : Lines)

inductive ProfileHeader : Contracts.ProfileHeader → Cursor → Cursor → Prop
  | mk {c c₁ c₂ c' : Cursor} {nameText versionText : String} {name : DocumentName}
      {version : Version} (hname : Setting "name" nameText c c₁)
      (name_eq : DocumentName.ofText? nameText = some name) (gap : Gap c₁ c₂)
      (hversion : Setting "version" versionText c₂ c')
      (version_eq : Version.ofText? versionText = some version) :
      ProfileHeader ⟨name, version, lines.location c.offset c'.offset⟩ c c'

/-- The word for what a usecase promises, with the gap behind it. -/
inductive Promise : Option Safety → Cursor → Cursor → Prop
  | nothing (c : Cursor) : Promise none c c
  | word {c c₁ c' : Cursor} (safety : Safety) (here : Word safety.text c c₁) (gap : Gap c₁ c') :
      Promise (some safety) c c'

/-- The words that begin a definition. No type has such a name. -/
def reserved : List String := ["usecase", "model", "field", "map", "operation"]

/-- A body behind a gap, or nothing. -/
inductive OptionalBody : Cursor → Cursor → Prop
  | nothing (c : Cursor) : OptionalBody c c
  | body {c c₁ c' : Cursor} (gap : Gap c c₁) (here : Body c₁ c') : OptionalBody c c'

/-- The type of a field behind a gap: a name, or a body in place of one. -/
inductive FieldType : Option String → Cursor → Cursor → Prop
  | nothing (c : Cursor) : FieldType none c c
  | name {c c₁ c' : Cursor} {name : String} (gap : Gap c c₁) (here : Ident name c₁ c')
      (free : name ∉ reserved) : FieldType (some name) c c'
  | body {c c₁ c' : Cursor} (gap : Gap c c₁) (here : Body c₁ c') :
      FieldType (some "\x7b...\x7d") c c'

/-- What a definition of a profile defines, and its name. -/
inductive ProfileItem : Contracts.ProfileItem → String → Cursor → Cursor → Prop
  | usecase {c c₁ c₂ c₃ c₄ c₅ c' : Cursor} {name : String} {safety : Option Safety}
      (hword : Word "usecase" c c₁) (gap₁ : Gap c₁ c₂) (hname : Ident name c₂ c₃)
      (gap₂ : Gap c₃ c₄) (promise : Promise safety c₄ c₅) (body : Body c₅ c') :
      ProfileItem (.usecase safety) name c c'
  | model {c c₁ c₂ c₃ c' : Cursor} {name : String} (hword : Word "model" c c₁) (gap : Gap c₁ c₂)
      (hname : Ident name c₂ c₃) (body : OptionalBody c₃ c') : ProfileItem .model name c c'
  | field {c c₁ c₂ c₃ c' : Cursor} {name : String} {type : Option String}
      (hword : Word "field" c c₁) (gap : Gap c₁ c₂) (hname : Ident name c₂ c₃)
      (htype : FieldType type c₃ c') : ProfileItem (.field type) name c c'

inductive ProfileDefinition : Contracts.ProfileDefinition → Cursor → Cursor → Prop
  | mk {c c₁ c' : Cursor} {item : Contracts.ProfileItem} {name : String} {title : Option String}
      (htitle : Title title c c₁) (hitem : ProfileItem item name c₁ c') :
      ProfileDefinition ⟨item, name, title, lines.location c.offset c'.offset⟩ c c'

/-- A whole text that is a profile. -/
inductive Profile (text : List Char) : Contracts.Profile → Prop
  | mk {c c₁ c₂ c' : Cursor} {header : Contracts.ProfileHeader}
      {definitions : List Contracts.ProfileDefinition} (gap₁ : Gap ⟨text, 0⟩ c)
      (hheader : ProfileHeader lines header c c₁) (gap₂ : Gap c₁ c₂)
      (hdefinitions : Definitions (ProfileDefinition lines) definitions c₂ c')
      (ending : c'.rest = []) :
      Profile text ⟨header, definitions, lines.location c.offset c'.offset⟩

end Profiles

/-! ### Maps -/

section Maps

variable (lines : Lines)

/-- The provider of a map, from the start of the header on, with the profile that it names. -/
inductive Provider : ProfileId → String → Cursor → Cursor → Prop
  | mk {c c₁ c₂ c' : Cursor} {profileText provider : String} {profile : ProfileId}
      (hprofile : Setting "profile" profileText c c₁)
      (profile_eq : ProfileId.ofText? profileText = some profile) (gap : Gap c₁ c₂)
      (hprovider : Setting "provider" provider c₂ c') : Provider profile provider c c'

/-- The variant behind a gap, or nothing. -/
inductive Variant : Option String → Cursor → Cursor → Prop
  | nothing (c : Cursor) : Variant none c c
  | variant {c c₁ c' : Cursor} {text : String} (gap : Gap c c₁)
      (here : Setting "variant" text c₁ c') : Variant (some text) c c'

inductive MapHeader : Contracts.MapHeader → Cursor → Cursor → Prop
  | mk {c c₁ c' : Cursor} {profile : ProfileId} {provider : String} {variant : Option String}
      (hprovider : Provider profile provider c c₁) (hvariant : Variant variant c₁ c') :
      MapHeader ⟨profile, provider, variant, lines.location c.offset c'.offset⟩ c c'

/-- The word that a definition of a map begins with. -/
def itemWord : MapItem → String
  | .map => "map"
  | .operation => "operation"

/-- A definition of a map, of whose body nothing is kept. -/
inductive MapDefinition : Contracts.MapDefinition → Cursor → Cursor → Prop
  | mk {c c₁ c₂ c₃ c₄ c₅ c' : Cursor} {title : Option String} {name : String} (item : MapItem)
      (htitle : Title title c c₁) (hword : Word (itemWord item) c₁ c₂) (gap₁ : Gap c₂ c₃)
      (hname : Ident name c₃ c₄) (gap₂ : Gap c₄ c₅) (body : Body c₅ c') :
      MapDefinition ⟨item, name, [], lines.location c.offset c'.offset⟩ c c'

/-- A whole text that is a map, of whose bodies nothing is kept. -/
inductive Map (text : List Char) : MapDocument → Prop
  | mk {c c₁ c₂ c' : Cursor} {header : Contracts.MapHeader}
      {definitions : List Contracts.MapDefinition} (gap₁ : Gap ⟨text, 0⟩ c)
      (hheader : MapHeader lines header c c₁) (gap₂ : Gap c₁ c₂)
      (hdefinitions : Definitions (MapDefinition lines) definitions c₂ c')
      (ending : c'.rest = []) : Map text ⟨header, definitions, lines.location c.offset c'.offset⟩

/-- The string of the provider or of the variant of a map ends at a cursor. -/
inductive HeaderStringEnd (text : List Char) : Cursor → Prop
  | provider {c c' : Cursor} {profile : ProfileId} {provider : String} (gap : Gap ⟨text, 0⟩ c)
      (hprovider : Provider profile provider c c') : HeaderStringEnd text c'
  | variant {c c₁ c' : Cursor} {profile : ProfileId} {provider variant : String}
      (gap : Gap ⟨text, 0⟩ c) (hprovider : Provider profile provider c c₁)
      (hvariant : Variant (some variant) c₁ c') : HeaderStringEnd text c'

end Maps

end Spelling

end Contracts
