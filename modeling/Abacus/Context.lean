/-
Module: Abacus.Context
Purpose: The contexts that code runs in, innermost first. Each nested context
  remembers the span it was entered from, so that a fault can be traced outward:
  the frame of the innermost context shows the fault itself, and the frame of
  every other one the place where the context inside it was entered.
Main exports: Context, Context.traceback, Context.fault
-/
import Abacus.Diagnostic

namespace Abacus

/-- A context: the outermost one, or one entered from `entry` inside `caller`. -/
inductive Context where
  | root (name : String)
  | nested (name : String) (entry : Span) (caller : Context)
deriving DecidableEq, Repr, Inhabited

namespace Context

/-- The context that a whole submission runs in. -/
def program : Context :=
  .root "<program>"

/-- The frame of a context named `context` in which evaluation stands at `span`. -/
def frameAt (context : String) (span : Span) : Frame :=
  { label := span.source.label, line := span.start.line + 1, context }

/-- One frame for each context from the innermost one outward, the first of them
    showing `span`. -/
def traceback (span : Span) : Context → List Frame
  | .root name => [frameAt name span]
  | .nested name entry caller => frameAt name span :: caller.traceback entry

/-- The diagnostic of a fault met in a context. -/
def fault (context : Context) (fault : RuntimeFault) (span : Span) : Diagnostic :=
  .runtime fault span (context.traceback span)

end Context

end Abacus
