import Narrowing.Declaration.Command
/-!
# The command line

Writes the declarations of combined guards up to an arity to standard output.  Asked for help it
writes nothing, since that page is the text of a parser of arguments, which is not part of it.
-/

/-- Runs the command on its arguments. -/
def main (arguments : List String) : IO UInt32 := do
  IO.print (Narrowing.Declaration.output arguments)
  return 0
