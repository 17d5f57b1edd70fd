/-!
# The example contract

A contract with known weaknesses, to try the scanner on.
-/

namespace ContractScan.Example

def lines : List String := [
  "// SPDX-License-Identifier: MIT",
  "pragma solidity ^0.8.0;",
  "",
  "contract VulnerableContract \x7b",
  "    mapping(address => uint256) public balances;",
  "",
  "    function deposit() public payable \x7b",
  "        balances[msg.sender] += msg.value;",
  "    \x7d",
  "",
  "    function withdraw(uint256 amount) public \x7b",
  "        require(balances[msg.sender] >= amount, \"Insufficient balance\");",
  "",
  "        // Vulnerable to reentrancy",
  "        (bool success, ) = msg.sender.call\x7bvalue: amount\x7d(\"\");",
  "        require(success, \"Transfer failed\");",
  "",
  "        balances[msg.sender] -= amount;",
  "    \x7d",
  "",
  "    function getBlockTimestamp() public view returns (uint256) \x7b",
  "        // Timestamp dependence",
  "        return block.timestamp;",
  "    \x7d",
  "",
  "    function isOwner() public view returns (bool) \x7b",
  "        // tx.origin vulnerability",
  "        return tx.origin == msg.sender;",
  "    \x7d",
  "",
  "    function riskyOperation() public \x7b",
  "        // Unchecked return value",
  "        address(0x123).send(1 ether);",
  "    \x7d",
  "",
  "    function generateRandomNumber() public view returns (uint256) \x7b",
  "        // Weak randomness",
  "        return uint256(keccak256(abi.encodePacked(block.timestamp, block.number)));",
  "    \x7d",
  "",
  "    function processLargeArray(uint256[] memory data) public \x7b",
  "        // Potential DoS with gas limit",
  "        for (uint256 i = 0; i < data.length; i++) \x7b",
  "            // Do something with each element",
  "            balances[msg.sender] += data[i];",
  "        \x7d",
  "    \x7d",
  "",
  "    function dangerousFunction(address target, bytes memory data) public \x7b",
  "        // Dangerous delegatecall",
  "        (bool success, ) = target.delegatecall(data);",
  "        require(success, \"Delegatecall failed\");",
  "    \x7d",
  "\x7d"]

def contract : String :=
  "\n".intercalate lines

end ContractScan.Example
