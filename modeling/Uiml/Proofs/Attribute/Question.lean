import Uiml.Proofs.Attribute.Settled
import Uiml.Proofs.Text.Parts

/-!
# Questions to a resolver

A resolver is asked for the values of texts and of attributes, in any order and as often as one
likes. In between its caches are emptied, or it begins or ceases to warn. All that makes no
difference to an answer: what has been asked before may be remembered or not, and what is remembered
is what would have been read.

## Main definitions

* `Resolver.Form` — the types of attributes, with how each is read
* `Resolver.Question` — what a resolver can be asked, how it finds out, and the answer without
  caches
* `Resolver.Use` — what can be done with a resolver

## Main results

* `Attribute.readComponents_trim` — blanks around a text are not seen in the numbers between its
  commas
* `Resolver.ask_eq_answer` — whatever has been done with a resolver, it gives the answer
-/

namespace Uiml

/-! ### Blanks at the ends of a text -/

namespace Text

/-- Blanks around a text are blanks around its first and its last part. -/
theorem map_trimChars_splitOn {separator : Char} {before after : List Char}
    (hseparator : isBlank separator = false) (hbefore : ∀ c ∈ before, isBlank c = true)
    (hafter : ∀ c ∈ after, isBlank c = true) (cs : List Char) :
    ((before ++ cs ++ after).splitOn separator).map trimChars =
      (cs.splitOn separator).map trimChars := by
  have hfree : ∀ {bs : List Char}, (∀ c ∈ bs, isBlank c = true) → separator ∉ bs := by
    intro bs hbs hmem
    rw [hbs separator hmem] at hseparator
    cases hseparator
  by_cases hmem : separator ∈ cs
  · -- the parts on either side of a separator are those of two shorter texts
    obtain ⟨first, rest, hcs⟩ := List.append_of_mem hmem
    have hlength : cs.length = first.length + rest.length + 1 := by
      rw [hcs, List.length_append, List.length_cons, Nat.add_assoc]
    have hfirst : ((before ++ first ++ []).splitOn separator).map trimChars =
        (first.splitOn separator).map trimChars :=
      map_trimChars_splitOn hseparator hbefore (by simp) first
    have hrest : (([] ++ rest ++ after).splitOn separator).map trimChars =
        (rest.splitOn separator).map trimChars :=
      map_trimChars_splitOn hseparator (by simp) hafter rest
    have hshape : before ++ cs ++ after =
        (before ++ first ++ []) ++ separator :: ([] ++ rest ++ after) := by simp [hcs]
    rw [hshape, hcs, List.splitOn_append_cons_self, List.splitOn_append_cons_self, List.map_append,
      List.map_append, hfirst, hrest]
  · have hall : separator ∉ before ++ cs ++ after := by
      simp only [List.mem_append, not_or]
      exact ⟨⟨hfree hbefore, hmem⟩, hfree hafter⟩
    rw [List.splitOn_eq_singleton hall, List.splitOn_eq_singleton hmem, List.map_singleton,
      List.map_singleton, trimChars_pad hbefore hafter]
termination_by cs.length

end Text

namespace Attribute

/-- The parts of a text are trimmed before they are read. -/
theorem readComponents_eq (s : String) : readComponents s =
    ((s.toList.splitOn ',').map Text.trimChars).mapM fun part =>
      readTrimmedFloat (String.ofList part) := by
  rw [readComponents, Text.split, List.mapM_map, List.mapM_map]
  refine congrArg (List.mapM · _) (funext fun part => ?_)
  simp only [Function.comp_apply, readFloat, Text.trim, String.toList_ofList]

/-- Blanks around a text are not seen in the numbers between its commas. -/
theorem readComponents_trim (s : String) : readComponents (Text.trim s) = readComponents s := by
  obtain ⟨before, after, hbefore, hafter, hs⟩ := Text.exists_pad s.toList
  have hcomma : Text.isBlank ',' = false := by decide
  have hparts := Text.map_trimChars_splitOn hcomma hbefore hafter (Text.trimChars s.toList)
  rw [← hs] at hparts
  rw [readComponents_eq, readComponents_eq, hparts, Text.trim, String.toList_ofList]

theorem readVec2_trim (s : String) : readVec2 (Text.trim s) = readVec2 s := by
  rw [readVec2, readComponents_trim, readVec2]

theorem readVec3_trim (s : String) : readVec3 (Text.trim s) = readVec3 s := by
  rw [readVec3, readComponents_trim, readVec3]

theorem readVec4_trim (s : String) : readVec4 (Text.trim s) = readVec4 s := by
  rw [readVec4, readComponents_trim, readVec4]

end Attribute

namespace Resolver

/-! ### Questions -/

/-- The types that an attribute can be asked for. -/
inductive Form : Type → Type 1
  | string : Form String
  | float : Form Float32
  | int : Form Int
  | boolean : Form Bool
  | vec2 : Form Vec2
  | vec3 : Form Vec3
  | vec4 : Form Vec4
  | color : Form Color
  | keyword {α : Type} [Keyword α] : Form α

namespace Form

variable {α : Type}

/-- The value of an attribute, or the default, as the resolver reads it. -/
def read (e : Element) (key : String) : Form α → α → Reading α
  | .string, default => return Resolver.string e key default
  | .float, default => Resolver.float e key default
  | .int, default => Resolver.int e key default
  | .boolean, default => Resolver.boolean e key default
  | .vec2, default => Resolver.vec2 e key default
  | .vec3, default => Resolver.vec3 e key default
  | .vec4, default => Resolver.vec4 e key default
  | .color, default => Resolver.color e key default
  | @keyword _ _, default => Resolver.keyword e key default

/-- The value of a text, read without caches. -/
def parse : Form α → String → Option α
  | .string, raw => some raw
  | .float, raw => Attribute.readFloat raw
  | .int, raw => Attribute.readInt raw
  | .boolean, raw => Attribute.readBool raw
  | .vec2, raw => Attribute.readVec2 raw
  | .vec3, raw => Attribute.readVec3 raw
  | .vec4, raw => Attribute.readVec4 raw
  | .color, raw => Attribute.readColor (Text.lowercase (Text.trim raw))
  | @keyword _ _, raw => Keyword.read? raw

end Form

/-- What a resolver can be asked: the value of a text, or that of an attribute. -/
inductive Question : Type → Type 1
  | vec2 (s : String) : Question (Option Vec2)
  | vec3 (s : String) : Question (Option Vec3)
  | vec4 (s : String) : Question (Option Vec4)
  | color (s : String) (default : Color) : Question (Option Color)
  | get {α : Type} (form : Form α) (e : Element) (key : String) (default : α) : Question α

namespace Question

variable {α : Type}

/-- How a resolver finds out. -/
def ask : Question α → Reading α
  | .vec2 s => readVec2 s
  | .vec3 s => readVec3 s
  | .vec4 s => readVec4 s
  | .color s default => readColor s default
  | .get form e key default => form.read e key default

/-- The answer, found out without caches: what the text means, whatever the default, or what the
attribute's text means, and the default if there is no attribute or it means nothing. -/
def answer : Question α → α
  | .vec2 s => Attribute.readVec2 s
  | .vec3 s => Attribute.readVec3 s
  | .vec4 s => Attribute.readVec4 s
  | .color s _ => Attribute.readColor (Text.lowercase (Text.trim s))
  | .get form e key default => ((e.attribute? key).bind form.parse).getD default

end Question

open Reading

theorem Form.read_means {α : Type} (form : Form α) (e : Element) (key : String) (default : α) :
    Means (form.read e key default) (((e.attribute? key).bind form.parse).getD default) := by
  cases form with
  | string =>
    have hstring : ((e.attribute? key).bind Form.string.parse).getD default =
        Resolver.string e key default := by
      rw [Resolver.string]
      cases e.attribute? key <;> rfl
    rw [hstring]
    exact .pure _
  | float => exact float_means e key default
  | int => exact int_means e key default
  | boolean => exact boolean_means e key default
  | vec2 =>
    have hvec := vec2_means e key default
    simp only [Attribute.readVec2_trim] at hvec
    exact hvec
  | vec3 =>
    have hvec := vec3_means e key default
    simp only [Attribute.readVec3_trim] at hvec
    exact hvec
  | vec4 =>
    have hvec := vec4_means e key default
    simp only [Attribute.readVec4_trim] at hvec
    exact hvec
  | color => exact color_means e key default
  | keyword => exact keyword_means e key default

/-- A resolver that remembers nothing wrong finds the answer, and goes on so. -/
theorem Question.ask_means {α : Type} (question : Question α) :
    Means question.ask question.answer := by
  cases question with
  | vec2 s =>
    rw [answer, ← Attribute.readVec2_trim]
    exact readVec2_means s
  | vec3 s =>
    rw [answer, ← Attribute.readVec3_trim]
    exact readVec3_means s
  | vec4 s =>
    rw [answer, ← Attribute.readVec4_trim]
    exact readVec4_means s
  | color s default => exact readColor_means s default
  | get form e key default => exact form.read_means e key default

/-! ### Uses -/

/-- What can be done with a resolver. -/
inductive Use : Type 1
  | ask {α : Type} (question : Question α)
  | clearCaches
  | setStrict (strict : Bool)

/-- The resolver after a use of it. -/
def used (r : Resolver) : Use → Resolver
  | .ask question => (question.ask.run r).value.2
  | .clearCaches => r.clearCaches
  | .setStrict strict => { r with strict }

theorem sound_used {r : Resolver} (h : r.Sound) (use : Use) : (r.used use).Sound := by
  cases use with
  | ask question => exact (question.ask_means r h).2
  | clearCaches => exact clearCaches_sound h
  | setStrict strict => exact ⟨h.vec2, h.vec3, h.vec4, h.color⟩

theorem sound_foldl_used {r : Resolver} (h : r.Sound) (uses : List Use) :
    (uses.foldl used r).Sound := by
  induction uses generalizing r with
  | nil => exact h
  | cons use uses ih => exact ih (sound_used h use)

/-- Whatever a resolver has been used for, it answers every question as if nothing had been asked
before: what its caches hold, how full they are and whether it warns makes no difference. -/
theorem ask_eq_answer (strict : Bool) (uses : List Use) {α : Type} (question : Question α) :
    (question.ask.run (uses.foldl used (new strict))).value.1 = question.answer :=
  (question.ask_means _ (sound_foldl_used (new_sound strict) uses)).1

/-- A text of two numbers is never remembered as a vector of three, and read the same again. -/
example :
    let question := Question.vec3 " 1, 2 "
    (question.ask.run ((new true).used (.ask question))).value.1.map (·.z) = some 1 := by
  decide +kernel

end Resolver

end Uiml
