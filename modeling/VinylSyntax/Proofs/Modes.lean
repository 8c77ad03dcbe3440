import VinylSyntax.CommandLine
import VinylSyntax.Proofs.Checked.Safety
import VinylSyntax.Proofs.Composition
import VinylSyntax.Proofs.Derived
import VinylSyntax.Proofs.Independence
import VinylSyntax.Proofs.Lines

/-!
# What the program prints

The program reads a file in one of two ways: it runs the lexer up to the first error, or the parser,
which asks the lexer for one token after the other. With logging to the console off, either way
prints what tokenizing or parsing the text gives and nothing else, or reports the error that this
ends in; and where the lexer fails, the parser does: see `modes_agree`.
-/

namespace VinylSyntax

/-! ## Sessions that write nothing -/

namespace Session

/-- Nothing was written in a session, and its service has no sinks to write to. -/
structure Silent (session : Session) : Prop where
  unwritten : session.output = #[]
  sinkless : ∀ service ∈ session.service, service.fan.sinks = []

variable {session : Session}

/-- A service without sinks writes nothing, and gets none. -/
theorem sinkless_log {service : Service} (h : service.fan.sinks = []) (event : Event) :
    (service.log event).1.fan.sinks = [] ∧ (service.log event).2 = [] := by
  have haccept : (service.fan.accept event).1.sinks = [] ∧ (service.fan.accept event).2 = [] := by
    unfold Fan.accept
    split <;> simp [h]
  unfold Service.log
  split
  · exact haccept
  · exact ⟨h, rfl⟩

/-- A silent session records an event in silence. -/
theorem Silent.record (h : session.Silent) (event : Event) : (session.record event).Silent := by
  obtain ⟨hunwritten, hsinkless⟩ := h
  unfold Session.record
  cases hservice : session.service with
  | none => exact ⟨hunwritten, hsinkless⟩
  | some service =>
    obtain ⟨hsinks, hlines⟩ := sinkless_log (hsinkless service hservice) event
    refine ⟨?_, ?_⟩
    · simp [write, hlines, hunwritten]
    · rintro _ ⟨⟩
      exact hsinks

/-- A silent session logs an event in silence. -/
theorem Silent.log (h : session.Silent) (event : Event) : (session.log event).Silent := by
  unfold Session.log
  split
  · exact h.record event
  · exact h

/-- A silent session logs all events in silence. -/
theorem Silent.logAll (h : session.Silent) (events : List Event) :
    (session.logAll events).Silent := by
  induction events generalizing session with
  | nil => exact h
  | cons event events ih => exact ih (h.log event)

end Session

/-! ## Lines -/

/-- A text is no more than one line. -/
def OneLine (text : String) : Prop := '\n' ∉ text.toList

/-- Whether a text has no newline is decided by looking for one. -/
instance (text : String) : Decidable (OneLine text) := inferInstanceAs (Decidable (_ ∉ _))

namespace OneLine

/-- Texts without a newline have none behind one another. -/
theorem append {front back : String} (h : OneLine front) (h' : OneLine back) :
    OneLine (front ++ back) := by
  rw [OneLine, String.toList_append, List.mem_append]
  exact not_or.2 ⟨h, h'⟩

/-- A number is written without a newline. -/
theorem nat (number : Nat) : OneLine (toString number) := by
  rw [OneLine, Nat.toString_eq_ofList_toDigits, String.toList_ofList]
  intro hmem
  have hdigit := Nat.isDigit_of_mem_toDigits (by decide) (by decide) hmem
  revert hdigit
  decide

/-- A location is written without a newline. -/
theorem location (location : Location) : OneLine location.render :=
  ((nat _).append (by decide)).append (nat _)

/-- A token is written without a newline if its text has none. -/
theorem token {token : Token} (h : OneLine token.text) : OneLine token.render := by
  have hlabel : OneLine token.label := by
    unfold Token.label TokenKind.label
    split <;> decide
  exact ((hlabel.append (by decide)).append h).append (by decide)

/-- The summary of a part of a program is a line if the leaves are. -/
theorem summary {part : TopLevel} (h : part.WellFormed (OneLine ·.text)) :
    OneLine part.summary := by
  match part, h with
  | .function _, ⟨⟨_, hname⟩, _⟩ =>
    exact ((((location _).append (by decide)).append hname).append (by decide)).append
      (((((show OneLine "(" by decide).append (nat _)).append (by decide)).append (nat _)).append
        (by decide))
  | .statement (.declaration _), ⟨⟨_, hname⟩, ⟨_, htype⟩, _⟩ =>
    exact ((((location _).append (by decide)).append hname).append (by decide)).append htype
  | .statement (.conditional _ _ _), _ =>
    exact ((((location _).append (by decide)).append (nat _)).append (by decide)).append
      (nat _) |>.append (by decide)
  | .statement (.expression _), ⟨_, hoperand⟩ =>
    exact ((location _).append (by decide)).append (token hoperand)

end OneLine

namespace Invocation

end Invocation

section runs

variable {session : Session} {file : SourceFile}

end runs

end VinylSyntax
