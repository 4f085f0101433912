import Switchyard.Unicode.RunTable

/-!
# Canonical combining classes

The class orders the marks that follow one base character.  Class nine are the viramas.
-/

namespace Switchyard

/-- Stretches of class zero (`Z`) and of the class given (`K`). -/
def combiningClassTable : RunTable := .ofText
  "ZlcKl,6eK1,6gK4,64K1,6gK1,60K5,64K2,5mK4,64K2,5mKb,64K5,1K4,64K8,6eK1,6oK1,6eK3,64K3,6eK2,64
    Z1K3,6eK4,64K1,6eK1,6gK2,64K1,6eK1,6hK2,6iK1,6hK2,6iK1,6hKd,6eZ7nK5,6eZ7dK1,64K4,6eK1,64
    K3,6eK1,66K1,64K6,6eK6,64K2,6eK1,64K2,6eK1,66K1,6cK1,6eK1,aK1,bK1,cK1,dK1,eK1,fK1,gK1,hK1,i
    K2,jK1,kK1,lK1,mZ1K1,nZ1K1,oK1,pZ1K1,6eK1,64Z1K1,iZ20K8,6eK1,uK1,vK1,wZ1cK1,rK1,sK1,tK1,u
    K1,vK1,wK1,xK1,yK2,6eK2,64K5,6eK1,64K2,6eK1,64ZgK1,zZ2tK7,6eZ2K4,6eK1,64K1,6eZ2K2,6eZ1K1,64
    K2,6eK1,64ZzK1,10ZuK1,6eK1,64K2,6eK1,64K2,6eK3,64K1,6eK2,64K1,6eK1,64K3,6eK1,64K1,6eK1,64
    K1,6eK1,64K1,6eK1,64K2,6eZ4gK7,6eK1,64K1,6eZ9K1,64ZoK4,6eZ1K9,6eZ1K3,6eZ1K5,6eZ17K3,64Z1o
    K1,6eK3,64K4,6eZ16K5,6eK5,64Ke,6eZ1K1,64K2,6eK1,64K2,6eK1,64K3,6eK3,64K1,rK1,sK1,tK3,6eK1,64
    K2,6eK2,64K5,6eZ1oK1,7ZgK1,9Z3K1,6eK1,64K2,6eZ2vK1,7ZgK1,9Z1cK1,6eZ1pK1,7ZgK1,9Z32K1,7ZgK1,9
    Z32K1,7ZgK1,9Z3jK1,9Z32K1,7ZgK1,9Z7K1,2cK1,2jZ2tK1,7ZgK1,9Z31K2,9ZgK1,9Z3gK1,9Z31K2,2vK1,9Zd
    K4,2zZ30K2,3aK1,9ZdK4,3eZ24K2,64ZrK1,64Z1K1,64Z1K1,60Z1jK1,3lK1,3mZ1K1,3oZ5K4,3mZ2K1,3mZ1
    K2,6eK1,9Z1K2,6eZ1qK1,64Z34K1,7Z1K2,9Z2aK1,64ZjzK3,6eZqcK2,9ZuK1,9Z4dK1,9ZaK1,6eZ5nK1,6cZ3z
    K1,66K1,6eK1,64Z63K1,6eK1,64Z1zK1,9ZkK8,6eZ2K1,64Z1cK5,6eK6,64K2,6eK1,64Z1K2,64K2,6eK2,64
    K5,6eK1,64K4,6eZ2tK1,7ZfK1,9Z12K1,6eK1,64K7,6eZ1iK2,9Z1mK1,7ZbK2,9Z1vK1,7Z48K3,6eZ1K1,1K5,64
    K2,6eK4,64K1,6eZ1K7,1Z4K1,64Z6K1,6eZ3K2,6eZ5iK2,6eK1,64K7,6eK1,64K2,6eK1,6iK1,5yK1,64K1,5m
    K11,6eK1,6gK2,6cK1,64K1,62K1,6eK1,6hK1,64K1,6eK1,64Zk0K2,6eK2,1K4,6eK3,1K2,6eZ4K1,6eZ3K2,1
    K1,6eK1,64K1,6eK2,1K4,64K1,6eZ2daK3,6eZ3xK1,9Z2oKw,6eZfeK1,62K1,6cK1,6gK1,66K2,68Z2xK2,8Zn9w
    K1,6eZ4Ka,6eZwK2,6eZ28K2,6eZ7oK1,9Z11K1,9Z47K1,9ZrKi,6eZ1lK3,64Z11K1,9Z2nK1,7ZcK1,9Z6nK1,6e
    Z1K2,6eK1,64Z2K2,6eZ5K2,6eZ1K1,6eZ1gK1,9Z6uK1,9Zfn4K1,qZldK7,6eK7,64K2,6eZr1K1,64Z6aK1,64Z45
    K5,6eZ1aqK1,64Z1K1,6eZ14K1,6eK1,1K1,64Z4K1,9Z4lK1,6eK1,64ZfxK4,6eZarK2,6eZ28K3,64Z1yK2,64
    K3,6eK1,64K1,6eK4,64Z1dK1,6eK1,64K1,6eK1,64Z5cK1,9Z15K1,9ZeK1,9Z1lK1,9K1,7Z1xK3,6eZ1cK2,9Z1q
    K1,7Z24K1,9Z9K1,7Z2yK1,9K1,7Z4yK1,7K1,9Z28K2,7ZgK1,9ZoK7,6eZ3K5,6eZ5pK1,9Z3K1,7ZnK1,6eZ2r
    K1,9K1,7Z6zK1,9K1,7Z3iK1,9Z3aK1,9K1,7Z37K1,9Z7hK1,9K1,7Z76K2,9Z4K1,7Z4cK1,9Z2bK1,9ZiK1,9Z29
    K1,9ZbpK1,9Z76K1,7Z1K2,9Z29K1,9ZbtK2,9Zey5K5,1Z1nK7,6eZxlK2,6Zf58K1,1Z43qK2,60K3,1Z3K1,6a
    K5,60Z8K8,64Z2K5,6eK2,64ZuK4,6eZ44K3,6eZ2pnK7,6eZ1Kh,6eZ2K7,6eZ1K2,6eZ1K5,6eZ2sK1,6eZ4gK7,6e
    ZafK1,6eZ1pK4,6eZe4K2,6gK1,64K1,6eZrkK7,64Z31K6,6eK1,7Zl705"

def combiningClass (c : Char) : Nat :=
  let r := combiningClassTable.runOf c
  if r.kind == 'K' then r.args.headD 0 else 0

def isVirama (c : Char) : Bool := combiningClass c == 9

end Switchyard
