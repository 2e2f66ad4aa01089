import ExecWrappers.Text
import ExecWrappers.Environ
import ExecWrappers.Memory
import ExecWrappers.Process
import ExecWrappers.PatchEnv
import ExecWrappers.ShortLived
import ExecWrappers.Fork
import ExecWrappers.Exec
import ExecWrappers.Intercept
import ExecWrappers.Variadic
import ExecWrappers.Calls
import ExecWrappers.Session
import ExecWrappers.Nesting
import ExecWrappers.Errno
import ExecWrappers.Retry
