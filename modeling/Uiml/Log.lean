/-!
# Log lines

Operations tell about what they did, and about what they could not do, in log lines. A line is a
value: an operation returns its lines in the order in which they arise, together with its result.

## Main definitions

* `Log.Level`, `Log.Target`, `Log.Line` — how grave a line is, who speaks, and what is said
* `Logged` — a result and the lines on the way to it
-/

namespace Uiml

namespace Log

/-- How grave a line is, gravest first. -/
inductive Level where
  | error
  | warn
  | info
  | debug
  | trace
  deriving DecidableEq, Repr, Inhabited

/-- The rank of a level: the graver the smaller, from 1 on. -/
def Level.rank : Level → Nat
  | .error => 1
  | .warn => 2
  | .info => 3
  | .debug => 4
  | .trace => 5

/-- The name of a level. -/
def Level.name : Level → String
  | .error => "ERROR"
  | .warn => "WARN"
  | .info => "INFO"
  | .debug => "DEBUG"
  | .trace => "TRACE"

/-- The part of the system that speaks. -/
inductive Target where
  | attributes
  | commands
  | compiler
  | resources
  | session
  | widgets
  | startup
  | program
  deriving DecidableEq, Repr, Inhabited

/-- The name under which a part of the system is filtered and shown. -/
def Target.name : Target → String
  | .attributes => "nabu_ui::attrs"
  | .commands => "nabu_ui::commands"
  | .compiler => "nabu_ui::compiler"
  | .resources => "nabu_ui::resources"
  | .session => "nabu_ui::session"
  | .widgets => "nabu_ui::widget"
  | .startup => "nabu_engine::logging::init"
  | .program => "nabu_studio"

/-- A log line. -/
structure Line where
  level : Level
  target : Target
  text : String
  deriving DecidableEq, Repr, Inhabited

/-- The lines that are at least as grave as a level. -/
def upTo (level : Level) (lines : List Line) : List Line :=
  lines.filter fun line => line.level.rank ≤ level.rank

end Log

/-- A result and the log lines that arose on the way to it. -/
structure Logged (α : Type) where
  value : α
  lines : List Log.Line := []
  deriving DecidableEq, Repr, Inhabited

namespace Logged

variable {α β : Type}

instance : Monad Logged where
  pure a := ⟨a, []⟩
  bind x f := ⟨(f x.value).value, x.lines ++ (f x.value).lines⟩

/-- Says one line. -/
def say (level : Log.Level) (target : Log.Target) (text : String) : Logged Unit :=
  ⟨(), [⟨level, target, text⟩]⟩

/-- Says one line if a condition holds. -/
def sayIf (b : Bool) (level : Log.Level) (target : Log.Target) (text : String) : Logged Unit :=
  if b then say level target text else pure ()

@[simp] theorem pure_value (a : α) : (pure a : Logged α).value = a := rfl

@[simp] theorem pure_lines (a : α) : (pure a : Logged α).lines = [] := rfl

@[simp] theorem bind_value (x : Logged α) (f : α → Logged β) :
    (x >>= f).value = (f x.value).value := rfl

@[simp] theorem bind_lines (x : Logged α) (f : α → Logged β) :
    (x >>= f).lines = x.lines ++ (f x.value).lines := rfl

@[simp] theorem map_value (f : α → β) (x : Logged α) : (f <$> x).value = f x.value := rfl

theorem id_map_eq (x : Logged α) : id <$> x = x := by
  show Logged.mk x.value (x.lines ++ []) = x
  simp

theorem bind_bind_eq {γ : Type} (x : Logged α) (f : α → Logged β) (g : β → Logged γ) :
    x >>= f >>= g = x >>= fun a => f a >>= g := by
  show Logged.mk _ ((x.lines ++ (f x.value).lines) ++ _) = Logged.mk _ (x.lines ++ (_ ++ _))
  simp

instance : LawfulMonad Logged :=
  LawfulMonad.mk' Logged id_map_eq (fun _ _ => rfl) bind_bind_eq

end Logged

end Uiml
