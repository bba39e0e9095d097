/-
**Modes.**

The mode of a file or a directory says who may do what with it. All operations are those of the
owner, so only the first of its three groups of bits decides; whether a file counts as a program at
all is told by the execute bits of any group.

* `Mode.mayRead`, `Mode.mayWrite`, `Mode.mayEnter`: what the owner may do;
* `Mode.hasExecuteBit`: whether any execute bit is set.
-/

namespace CalcBuild.Files

/-- The permission bits of a file or a directory. -/
abbrev Mode := Nat

namespace Mode

/-- Whether the owner may read a file, or list a directory. -/
def mayRead (mode : Mode) : Bool :=
  mode &&& 0o400 != 0

/-- Whether the owner may write to a file, or make and remove entries of a directory. -/
def mayWrite (mode : Mode) : Bool :=
  mode &&& 0o200 != 0

/-- Whether the owner may start a file, or look up entries of a directory. -/
def mayEnter (mode : Mode) : Bool :=
  mode &&& 0o100 != 0

/-- Whether a mode has any of its execute bits set. -/
def hasExecuteBit (mode : Mode) : Bool :=
  mode &&& 0o111 != 0

/-- The mode of a directory that is made without asking for another one. -/
def ofDirectory : Mode := 0o755

/-- The mode of a file that is made without asking for another one. -/
def ofFile : Mode := 0o644

/-- The mode of what belongs to the machine: it can be read and started, but not changed. -/
def ofMachine : Mode := 0o555

end Mode

end CalcBuild.Files
