import NssLayering.Machine
import NssLayering.Thread
import NssLayering.Fd
import NssLayering.Layer
import NssLayering.Refinement
import NssLayering.Nesting
import NssLayering.Tls
import NssLayering.Heap
import NssLayering.Ownership
import NssLayering.Lifecycle
import NssLayering.Release
import NssLayering.Abstraction
