import Mir.Ast
import Mir.Typechecker
import Mir.Typing
import Mir.Frame
import Mir.Laws
import Mir.Safety
import Mir.Equivalence
