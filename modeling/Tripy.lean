import Tripy.Common
import Tripy.Backend.Binding
import Tripy.Backend.Base64
import Tripy.Backend.Executable
import Tripy.Backend.Call
import Tripy.Runtime.MemRef
import Tripy.FlatIR.Constant
import Tripy.Trace.UnaryElementwise
