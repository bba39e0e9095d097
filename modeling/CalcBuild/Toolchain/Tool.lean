/-
**The external tools.**

A build drives three programs: the front end of the language, a C compiler, and a compiler from the
intermediate representation to objects.
-/

import CalcBuild.Text.Utf8

namespace CalcBuild

/-- The external tools. -/
inductive Tool where
  | frontend
  | cCompiler
  | backend
  deriving DecidableEq, Repr

namespace Tool

/-- All tools, in the order in which they are resolved. -/
def all : List Tool := [.frontend, .cCompiler, .backend]

/-- The name of the tool's program. -/
def program : Tool → String
  | .frontend => "calcc"
  | .cCompiler => "clang"
  | .backend => "llc"

/-- What the tool is. -/
def description : Tool → String
  | .frontend => "front-end compiler"
  | .cCompiler => "C compiler"
  | .backend => "LLVM static compiler"

end Tool

/-- The paths of the three tools. -/
structure Toolchain where
  frontend : Bytes
  cCompiler : Bytes
  backend : Bytes
  deriving DecidableEq, Repr

/-- The path of a tool. -/
def Toolchain.path (toolchain : Toolchain) : Tool → Bytes
  | .frontend => toolchain.frontend
  | .cCompiler => toolchain.cCompiler
  | .backend => toolchain.backend

end CalcBuild
