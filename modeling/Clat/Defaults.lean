/-! Fixed values: defaults of items, waits of discovery, sizes and well-known addresses. -/
namespace Clat.Defaults

def version : String := "1.0.0"

/-- The configuration file that is read if no other is named. -/
def configFile : String := "/system/etc/clatd.conf"

def ipv4LocalSubnet : String := "192.0.0.4"

def detectionHostname : String := "ipv4only.arpa"

def mtu : String := "-1"

def ipv6HostId : String := "::"

/-- The IPv4 addresses that the detection host name has. -/
def wellKnownAddresses : List String := ["192.0.0.170", "192.0.0.171"]

def defaultNetwork : Int := 0

/-- Seconds of the first wait after a query in vain. -/
def firstWait : Nat := 1

/-- Seconds of the longest wait after a query in vain. -/
def longestWait : Nat := 120

/-- Octets of an interface name with the octet that ends it. -/
def interfaceNameSize : Nat := 16

end Clat.Defaults
