/-!
# Processes

Whether a process is alive decides whether what it shares stays. The numbers of processes are
positive and fit into 31 bits; anything else stands for no process.
-/

namespace SharedVariables

/-- Whether `pid` is a process, given which numbers name running ones. -/
def isAlive (running : UInt32 → Bool) (pid : UInt32) : Bool :=
  0 < pid && pid < 0x80000000 && running pid

end SharedVariables
