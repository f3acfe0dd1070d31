/-! Texts that tell how to call the program. -/
namespace Clat.CommandLine

def textOf (lines : List String) : String := String.join (lines.map (· ++ "\n"))

def usage : String := textOf [
  "usage: clatd [-h] [-V] -i INTERFACE [-p PLAT_PREFIX] [-n NETID] [-c CONFIG]",
  "             [--loglevel \x7bdebug,info,notice,warning,error,fatal\x7d]",
  "             [--logtarget \x7bstdout,stderr,syslog\x7d]"]

def help : String := usage ++ textOf [
  "",
  "464xlat CLAT daemon: translates the host's IPv4 traffic to IPv6 through a",
  "NAT64 PLAT.",
  "",
  "options:",
  "  -h, --help            show this help message and exit",
  "  -V, --version         Get version",
  "  -i INTERFACE, --interface INTERFACE",
  "                        Uplink interface providing IPv6 connectivity and the",
  "                        local address space.",
  "  -p PLAT_PREFIX, --plat-prefix PLAT_PREFIX",
  "                        Optional, PLAT prefix to use instead of the",
  "                        configuration file or DNS64 discovery.",
  "  -n NETID, --netid NETID",
  "                        Optional, network identifier used for DNS64 discovery",
  "                        queries.",
  "  -c CONFIG, --config CONFIG",
  "                        Optional, path to the configuration file (clatd.conf,",
  "                        YAML or JSON).",
  "  --loglevel \x7bdebug,info,notice,warning,error,fatal\x7d",
  "                        Logging level.",
  "  --logtarget \x7bstdout,stderr,syslog\x7d",
  "                        Logging target."]

end Clat.CommandLine
